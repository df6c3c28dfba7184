import DomeLink.Proofs.Mechanism
import DomeLink.Proofs.Status.Damage

/-!
# Status replies are read back

A status reply is a list of pieces of fixed widths (`Status.pieces`), so each field is read off its
piece. What a reply carries of a status is `Status.carried`: the quantities less the digits that do
not fit, and the flag words less their high four bits, but for that of the focuser.

* `decode_encode`: the reply of a controller in any state is read back as what it carries.
-/

namespace DomeLink.Status

open Bytes (start stop cr)

/-- What the reply carries of a status. -/
def carried (s : Status) : Status where
  domeAzimuth := min s.domeAzimuth domeTicksMax
  dome := s.dome.nibble
  shutter := s.shutter.nibble
  dropout := s.dropout.nibble
  aperture := s.aperture.nibble
  filter := s.filter.nibble
  acqMirror := s.acqMirror.nibble
  instrumentShutter := s.instrumentShutter.nibble
  focusPosition := carriedFocus s.focusPosition
  focus := s.focus
  critical := s.critical.nibble
  eht := s.eht
  handset := s.handset
  apertureSlot := s.apertureSlot % 10
  filterSlot := s.filterSlot % 10
  domeFlopMin := s.domeFlopMin % 10000
  domeFlopMax := s.domeFlopMax % 10000
  haPulses := UInt32.ofNat (s.haPulses.toNat % 10 ^ 8)
  decPulses := UInt32.ofNat (s.decPulses.toNat % 10 ^ 8)

/-- The pieces that a status reply starts with: header and end code, then the fields. -/
def pieces (s : Status) : List Bytes :=
  [Frame.statusHeader ++ successCode,
    Digits.writeDecimal 4 (ticksOfAzimuth s.domeAzimuth),
    s.dome.toDigits 1, s.shutter.toDigits 1, s.dropout.toDigits 1, s.aperture.toDigits 1,
    s.filter.toDigits 1, s.acqMirror.toDigits 1, s.instrumentShutter.toDigits 1,
    [(focusToWire s.focusPosition).1], Digits.writeDecimal 3 (focusToWire s.focusPosition).2,
    s.focus.toDigits 2, s.critical.toDigits 1, Digits.writeHex 1 s.eht.code.toUInt32,
    Digits.writeHex 2 s.handset.toUInt32, Digits.writeDecimal 1 s.apertureSlot.toUInt32,
    Digits.writeDecimal 1 s.filterSlot.toUInt32, Digits.writeDecimal 4 s.domeFlopMin.toUInt32,
    Digits.writeDecimal 4 s.domeFlopMax.toUInt32, Digits.writeDecimal 8 s.haPulses,
    Digits.writeDecimal 8 s.decPulses]

theorem map_length_pieces (s : Status) :
    s.pieces.map List.length =
      [7, 4, 1, 1, 1, 1, 1, 1, 1, 1, 3, 2, 1, 1, 2, 1, 1, 4, 4, 8, 8] := by
  simp [pieces, Frame.statusHeader, successCode, Bytes.ascii]

theorem flatten_pieces (s : Status) :
    s.pieces.flatten = Frame.statusHeader ++ successCode ++ s.fields := by
  unfold pieces fields
  simp only [List.flatten_cons, List.flatten_nil, List.append_nil]
  simp only [List.append_assoc]

/-- A frame that starts with the pieces says field by field what they carry. -/
theorem says_flatten_pieces (s : Status) (rest : Bytes) (f : StatusField) :
    Says (s.pieces.flatten ++ rest) s.carried f := by
  have hws := s.map_length_pieces
  have focus : focusAt (s.pieces.flatten ++ rest) = .ok s.carried.focusPosition := by
    have sign := Bytes.byteAt_flatten hws rest 9 18 rfl (by decide)
    have magnitude := Bytes.decimalField_flatten hws rest 10 19 rfl (by decide)
    simp only [focusAt, numberAt, StatusField.offset, StatusField.width, magnitude, sign, ok_bind,
      focusOfWire_focusToWire, carried]
  cases f with
  | domePosition =>
    have ticks := Bytes.decimalField_flatten hws rest 1 7 rfl (by decide)
    simp only [Says, numberAt, StatusField.offset, StatusField.width, ticks, ok_bind,
      azimuthOfTicks_ticksOfAzimuth, carried]
  | dome => exact Flags.ofField_flatten hws rest 2 11 rfl (by decide)
  | shutter => exact Flags.ofField_flatten hws rest 3 12 rfl (by decide)
  | dropout => exact Flags.ofField_flatten hws rest 4 13 rfl (by decide)
  | aperture => exact Flags.ofField_flatten hws rest 5 14 rfl (by decide)
  | filter => exact Flags.ofField_flatten hws rest 6 15 rfl (by decide)
  | acqMirror => exact Flags.ofField_flatten hws rest 7 16 rfl (by decide)
  | instrumentShutter => exact Flags.ofField_flatten hws rest 8 17 rfl (by decide)
  | focusSign => exact focus
  | focusPosition => exact focus
  | focus => exact Flags.ofField_flatten_two hws rest 11 22 rfl (by decide) (by decide)
  | critical => exact Flags.ofField_flatten hws rest 12 24 rfl (by decide)
  | eht =>
    have code := Bytes.hexField_flatten hws rest 13 25 rfl (by decide)
    simp only [Says, byteAt, StatusField.offset, StatusField.width, code, map_ok, ok_bind,
      ofCode_hexDigit, carried]
  | handset =>
    have byte := Bytes.hexField_flatten hws rest 14 26 rfl (by decide)
    simp only [Says, byteAt, StatusField.offset, StatusField.width, byte, map_ok,
      toUInt8_ofNat_mod_hex, carried]
  | apertureSlot =>
    have slot := Bytes.decimalField_flatten hws rest 15 28 rfl (by decide)
    simp only [Says, numberAt, StatusField.offset, StatusField.width, slot, map_ok,
      toUInt8_ofNat_mod, carried]
  | filterSlot =>
    have slot := Bytes.decimalField_flatten hws rest 16 29 rfl (by decide)
    simp only [Says, numberAt, StatusField.offset, StatusField.width, slot, map_ok,
      toUInt8_ofNat_mod, carried]
  | domeFlopMin =>
    have flop := Bytes.decimalField_flatten hws rest 17 30 rfl (by decide)
    simp only [Says, numberAt, StatusField.offset, StatusField.width, flop, map_ok,
      toUInt16_ofNat_mod, carried]
  | domeFlopMax =>
    have flop := Bytes.decimalField_flatten hws rest 18 34 rfl (by decide)
    simp only [Says, numberAt, StatusField.offset, StatusField.width, flop, map_ok,
      toUInt16_ofNat_mod, carried]
  | haPulses => exact Bytes.decimalField_flatten hws rest 19 38 rfl (by decide)
  | decPulses => exact Bytes.decimalField_flatten hws rest 20 46 rfl (by decide)

/-! ## Whole replies -/

theorem encode_eq_terminate (s : Status) :
    s.encode = Checksum.terminate (s.pieces.flatten ++ reserved) := by
  rw [encode, flatten_pieces]

theorem checkReply_encode (s : Status) : Frame.checkReply .status s.encode = .ok () := by
  have hhead : (s.pieces.flatten ++ reserved).head? = some start := rfl
  have hbody := Checksum.checkBody_close hhead
  have hprefix : Frame.statusHeader <+: Checksum.close (s.pieces.flatten ++ reserved) := by
    rw [Checksum.close, flatten_pieces]
    simp only [List.append_assoc]
    exact List.prefix_append _ _
  unfold Frame.checkBody at hbody
  split at hbody
  case isFalse => cases hbody
  case isTrue hdelimited =>
    rw [Frame.checkReply_eq_ok_iff, encode_eq_terminate, Checksum.withoutCr_terminate]
    refine ⟨?_, hdelimited, hprefix, hbody, fun hkind => absurd hkind (by decide)⟩
    rw [Checksum.length_close, List.length_append, List.length_flatten, map_length_pieces]
    decide

/-- **A status reply is read back** as what it carries of its status. -/
theorem decode_encode (s : Status) : decode s.encode = .ok s.carried := by
  refine decode_eq_ok_iff.2 ⟨checkReply_encode s, fun f => ?_⟩
  rw [encode_eq_terminate, Checksum.terminate, List.append_assoc, List.append_assoc]
  exact says_flatten_pieces s _ f

/-- It is so without its carriage return too. -/
theorem decode_dropLast_encode (s : Status) : decode s.encode.dropLast = .ok s.carried := by
  have hlen : StatusField.fieldsEnd ≤ (s.pieces.flatten ++ reserved).length := by
    rw [List.length_append, List.length_flatten, map_length_pieces]
    decide
  rw [← decode_encode s, encode_eq_terminate, Checksum.dropLast_terminate, decode_close hlen]

end DomeLink.Status
