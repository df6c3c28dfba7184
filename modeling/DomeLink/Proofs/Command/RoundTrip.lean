import DomeLink.Command.Codec
import DomeLink.Proofs.Mechanism
import DomeLink.Proofs.Wire.Field
import DomeLink.Proofs.Wire.Verify

/-!
# Command frames are read back

A command frame is a list of pieces of fixed widths (`Command.pieces`), so each field is read off
its piece. What a frame carries of a command is `Command.carried`: the quantities less the digits
that do not fit, the flag words less their high four bits, and no bookkeeping.

* `checkCommand_encode`: every command frame passes the check of command frames.
* `decode_encode`: a command frame is read back as what it carries.
-/

namespace DomeLink.Command

/-- The command less the bookkeeping, which does not travel. -/
def wire (c : Command) : Command := { c with controlled := ∅, requested := ∅ }

/-- What the frame of a command carries. -/
def carried (c : Command) : Command where
  domeTarget := min c.domeTarget domeTicksMax
  dome := c.dome.nibble
  shutter := c.shutter.nibble
  dropout := c.dropout.nibble
  focus := c.focus.nibble
  focusTarget := carriedFocus c.focusTarget
  aperture := c.aperture.nibble
  apertureSlot := c.apertureSlot % 10
  filter := c.filter.nibble
  filterSlot := c.filterSlot % 10
  eht := c.eht
  acqMirror := c.acqMirror.nibble
  misc := c.misc.nibble
  domeFlopMin := c.domeFlopMin % 10000
  domeFlopMax := c.domeFlopMax % 10000

/-- The pieces that a command frame starts with: header and address, then the fields. -/
def pieces (c : Command) : List Bytes :=
  [Frame.commandHeader ++ Frame.commandAddress,
    Digits.writeDecimal 4 (ticksOfAzimuth c.domeTarget),
    c.dome.toDigits 1, c.shutter.toDigits 1, c.dropout.toDigits 1, c.focus.toDigits 1,
    [(focusToWire c.focusTarget).1], Digits.writeDecimal 3 (focusToWire c.focusTarget).2,
    c.aperture.toDigits 1, Digits.writeDecimal 1 c.apertureSlot.toUInt32,
    c.filter.toDigits 1, Digits.writeDecimal 1 c.filterSlot.toUInt32,
    Digits.writeHex 1 c.eht.code.toUInt32, c.acqMirror.toDigits 1, c.misc.toDigits 1,
    Digits.writeDecimal 4 c.domeFlopMin.toUInt32, Digits.writeDecimal 4 c.domeFlopMax.toUInt32]

theorem map_length_pieces (c : Command) :
    c.pieces.map List.length = [9, 4, 1, 1, 1, 1, 1, 3, 1, 1, 1, 1, 1, 1, 1, 4, 4] := by
  simp [pieces, Frame.commandHeader, Frame.commandAddress, Bytes.ascii]

theorem flatten_pieces (c : Command) :
    c.pieces.flatten = Frame.commandHeader ++ Frame.commandAddress ++ c.fields := by
  simp [pieces, fields]

/-- A checked frame that starts with the pieces is read field by field. -/
theorem decode_flatten_pieces (c : Command) (rest : Bytes)
    (h : Frame.checkCommand (c.pieces.flatten ++ rest) = .ok ()) :
    decode (c.pieces.flatten ++ rest) = .ok c.carried := by
  have hws := c.map_length_pieces
  have domeTarget := Bytes.decimalField_flatten hws rest 1 9 rfl (by decide)
  have dome := Flags.ofField_flatten hws rest 2 13 rfl (by decide)
  have shutter := Flags.ofField_flatten hws rest 3 14 rfl (by decide)
  have dropout := Flags.ofField_flatten hws rest 4 15 rfl (by decide)
  have focus := Flags.ofField_flatten hws rest 5 16 rfl (by decide)
  have sign := Bytes.byteAt_flatten hws rest 6 17 rfl (by decide)
  have magnitude := Bytes.decimalField_flatten hws rest 7 18 rfl (by decide)
  have aperture := Flags.ofField_flatten hws rest 8 21 rfl (by decide)
  have apertureSlot := Bytes.decimalField_flatten hws rest 9 22 rfl (by decide)
  have filter := Flags.ofField_flatten hws rest 10 23 rfl (by decide)
  have filterSlot := Bytes.decimalField_flatten hws rest 11 24 rfl (by decide)
  have eht := Bytes.hexField_flatten hws rest 12 25 rfl (by decide)
  have acqMirror := Flags.ofField_flatten hws rest 13 26 rfl (by decide)
  have misc := Flags.ofField_flatten hws rest 14 27 rfl (by decide)
  have domeFlopMin := Bytes.decimalField_flatten hws rest 15 28 rfl (by decide)
  have domeFlopMax := Bytes.decimalField_flatten hws rest 16 32 rfl (by decide)
  unfold decode
  simp only [focusSignOffset, h, magnitude, sign, focusOfWire_focusToWire, domeTarget,
    azimuthOfTicks_ticksOfAzimuth, dome, shutter, dropout, focus, aperture, apertureSlot, filter,
    filterSlot, eht, ofCode_hexDigit, acqMirror, misc, domeFlopMin, domeFlopMax, ok_bind,
    toUInt8_ofNat_mod, toUInt16_ofNat_mod]
  rfl

/-! ## Whole frames -/

/-- What the check field of a command frame covers. -/
def content (c : Command) : Bytes := c.pieces.flatten ++ padding

theorem encode_eq_terminate (c : Command) : c.encode = Checksum.terminate c.content := by
  rw [encode, content, flatten_pieces]

theorem length_content (c : Command) : c.content.length = 53 := by
  rw [content, List.length_append, List.length_flatten, map_length_pieces]
  rfl

/-- **Every command frame passes the check** of command frames. -/
theorem checkCommand_encode (c : Command) : Frame.checkCommand c.encode = .ok () := by
  rw [Frame.checkCommand_eq_ok_iff, encode_eq_terminate, Checksum.withoutCr_terminate]
  have hlen : (Checksum.close c.content).length = 56 := by
    rw [Checksum.length_close, length_content]
  refine ⟨Nat.le_of_eq hlen.symm, ?_, c.content, rfl⟩
  simp [Checksum.close, content, flatten_pieces]

/-- A command frame that passes its check is read alike without its carriage return. -/
theorem decode_withoutCr {frame : Bytes} (h : Frame.checkCommand frame = .ok ()) :
    decode frame.withoutCr = decode frame := by
  have hcheck := Frame.checkCommand_withoutCr h
  have hlen := (Frame.checkCommand_eq_ok_iff.1 h).1
  obtain ⟨tail, htail⟩ := Bytes.exists_eq_withoutCr_append frame
  generalize frame.withoutCr = body at *
  subst htail
  simp (disch := omega) only [decode, h, hcheck, Bytes.decimalField_append, Bytes.hexField_append,
    Bytes.byteAt_append, Flags.ofField_append, focusSignOffset]

/-- What a frame without its carriage return is read as. -/
theorem decode_close_content (c : Command) :
    decode (Checksum.close c.content) = .ok c.carried := by
  have hsplit : Checksum.close c.content = c.pieces.flatten ++
      (padding ++ Checksum.chars (Checksum.compute c.content) ++ [Bytes.stop]) := by
    simp only [Checksum.close, content, List.append_assoc]
  have hcheck := Frame.checkCommand_withoutCr c.checkCommand_encode
  rw [encode_eq_terminate, Checksum.withoutCr_terminate] at hcheck
  rw [hsplit] at hcheck ⊢
  exact decode_flatten_pieces c _ hcheck

/-- **A command frame is read back** as what it carries of its command. -/
theorem decode_encode (c : Command) : decode c.encode = .ok c.carried := by
  rw [← decode_withoutCr c.checkCommand_encode, encode_eq_terminate, Checksum.withoutCr_terminate,
    decode_close_content]

end DomeLink.Command
