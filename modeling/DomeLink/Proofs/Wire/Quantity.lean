import DomeLink.Proofs.Mechanism
import DomeLink.Proofs.Wire.Spelling

/-!
# Fields of quantities

Status replies and commands have the same kinds of fields: an azimuth, a focuser position, the
high-voltage mode, slots and flop limits. Each kind has its reader here, at any place of a frame,
and the laws say which bytes it reads (`exists_azimuthField_iff` and its like) and what is written
for what it has read (`field_of_azimuthField` and its like).

A focuser position is the only quantity that is not always written as it was read: zero has a
negative form, `F000`, and is written as `0000` (`field_focusToWire_iff`).
-/

namespace DomeLink.Digits

theorem upper_eq_self_of_isDecimal_ofNat :
    ∀ n : Fin 256, isDecimal (upper (UInt8.ofNat n)) = true →
      upper (UInt8.ofNat n) = UInt8.ofNat n := by
  decide +kernel

/-- No letter becomes a decimal digit in uppercase. -/
theorem upper_eq_self_of_isDecimal {b : UInt8} (h : isDecimal (upper b) = true) : upper b = b := by
  have hn := upper_eq_self_of_isDecimal_ofNat ⟨b.toNat, b.toNat_lt⟩
  rw [UInt8.ofNat_toNat] at hn
  exact hn h

end DomeLink.Digits

namespace DomeLink.Bytes

open Digits

variable {frame xs ys : Bytes} {offset width width' : Nat}

/-! ## Azimuths -/

/-- The azimuth whose encoder count stands at `offset`. -/
def azimuthField (frame : Bytes) (offset : Nat) : Outcome UInt16 :=
  frame.decimalField offset 4 >>= azimuthOfTicks

theorem exists_azimuthField_iff :
    (∃ azimuth, frame.azimuthField offset = .ok azimuth) ↔
      frame.Spells offset (offset + 4) isDecimal ∧
        decimal (frame.extract offset (offset + 4)) ≤ 3599 := by
  rw [← exists_decimalField_iff (by decide) (by decide)]
  constructor
  · rintro ⟨azimuth, h⟩
    obtain ⟨ticks, hticks, hazimuth⟩ := bind_eq_ok.1 h
    refine ⟨⟨ticks, hticks⟩, ?_⟩
    rw [← toNat_of_decimalField hticks]
    exact (azimuthOfTicks_eq_ok_iff.1 hazimuth).1
  · rintro ⟨⟨ticks, hticks⟩, hle⟩
    rw [← toNat_of_decimalField hticks] at hle
    exact ⟨_, bind_eq_ok.2 ⟨ticks, hticks, azimuthOfTicks_of_le hle⟩⟩

theorem field_of_azimuthField {azimuth : UInt16} (h : frame.azimuthField offset = .ok azimuth) :
    frame.field offset 4 = .ok (writeDecimal 4 (ticksOfAzimuth azimuth)) := by
  obtain ⟨ticks, hticks, hazimuth⟩ := bind_eq_ok.1 h
  rw [ticksOfAzimuth_of_azimuthOfTicks hazimuth]
  exact field_of_decimalField hticks

/-! ## Slots and flop limits -/

/-- The slot whose number stands at `offset`. -/
def slotField (frame : Bytes) (offset : Nat) : Outcome UInt8 :=
  UInt32.toUInt8 <$> frame.decimalField offset 1

/-- The flop limit that stands at `offset`. -/
def flopField (frame : Bytes) (offset : Nat) : Outcome UInt16 :=
  UInt32.toUInt16 <$> frame.decimalField offset 4

theorem exists_slotField_iff :
    (∃ slot, frame.slotField offset = .ok slot) ↔ frame.Spells offset (offset + 1) isDecimal :=
  exists_map_iff.trans (exists_decimalField_iff (by decide) (by decide))

theorem exists_flopField_iff :
    (∃ limit, frame.flopField offset = .ok limit) ↔ frame.Spells offset (offset + 4) isDecimal :=
  exists_map_iff.trans (exists_decimalField_iff (by decide) (by decide))

theorem field_of_slotField {slot : UInt8} (h : frame.slotField offset = .ok slot) :
    frame.field offset 1 = .ok (writeDecimal 1 slot.toUInt32) := by
  obtain ⟨v, hv, rfl⟩ := map_eq_ok.1 h
  have hlt := decimalField_lt hv
  have hback : v.toUInt8.toUInt32 = v := by
    rw [← UInt32.toNat_inj, UInt8.toNat_toUInt32, UInt32.toNat_toUInt8]
    omega
  rw [hback]
  exact field_of_decimalField hv

theorem field_of_flopField {limit : UInt16} (h : frame.flopField offset = .ok limit) :
    frame.field offset 4 = .ok (writeDecimal 4 limit.toUInt32) := by
  obtain ⟨v, hv, rfl⟩ := map_eq_ok.1 h
  have hlt := decimalField_lt hv
  have hback : v.toUInt16.toUInt32 = v := by
    rw [← UInt32.toNat_inj, UInt16.toNat_toUInt32, UInt32.toNat_toUInt16]
    omega
  rw [hback]
  exact field_of_decimalField hv

/-! ## High voltage -/

/-- The digit of a high-voltage mode. -/
def isModeDigit (b : UInt8) : Bool := b == '0'.toUInt8 || b == '1'.toUInt8 || b == '2'.toUInt8

/-- The high-voltage mode whose digit stands at `offset`. -/
def ehtField (frame : Bytes) (offset : Nat) : Outcome EhtMode :=
  frame.hexField offset 1 >>= fun v => EhtMode.ofCode v.toUInt8

/-- A mode has one spelling. -/
theorem ehtField_eq_ok_iff {mode : EhtMode} :
    frame.ehtField offset = .ok mode ↔
      frame.field offset 1 = .ok (writeHex 1 mode.code.toUInt32) := by
  constructor
  · intro h
    obtain ⟨v, hv, hmode⟩ := bind_eq_ok.1 h
    obtain ⟨bs, hfield, hread⟩ := hexField_eq_ok_iff.1 hv
    have hlen := length_of_field hfield
    have hlt := readHex_lt hread
    rw [hlen] at hlt
    have hcode : mode.code.toUInt32 = v := by
      rw [code_of_ofCode hmode, ← UInt32.toNat_inj, UInt8.toNat_toUInt32, UInt32.toNat_toUInt8]
      omega
    have hwrite := writeHex_of_readHex hread (by omega)
    rw [hlen, ← hcode] at hwrite
    rw [hfield, Except.ok.injEq, hwrite]
    -- The letters are in uppercase, as there are none.
    obtain ⟨b, rfl⟩ := List.length_eq_one_iff.1 hlen
    have hdigit : [upper b].all isDecimal = true := by
      rw [← List.map_singleton, ← hwrite]
      cases mode <;> rfl
    rw [List.all_cons, List.all_nil, Bool.and_true] at hdigit
    rw [List.map_singleton, upper_eq_self_of_isDecimal hdigit]
  · intro h
    have hread := readHex_writeHex 1 mode.code.toUInt32
    exact bind_eq_ok.2 ⟨_, hexField_eq_ok_iff.2 ⟨_, h, hread⟩, ofCode_hexDigit mode⟩

theorem exists_ehtField_iff :
    (∃ mode, frame.ehtField offset = .ok mode) ↔
      frame.Spells offset (offset + 1) isModeDigit := by
  constructor
  · rintro ⟨mode, h⟩
    rw [spells_iff_of_field (ehtField_eq_ok_iff.1 h)]
    cases mode <;> rfl
  · intro h
    obtain ⟨bs, hfield⟩ := exists_field_of_spells h (by decide)
    obtain ⟨b, rfl⟩ := List.length_eq_one_iff.1 (length_of_field hfield)
    rw [spells_iff_of_field hfield, List.all_cons, List.all_nil, Bool.and_true, isModeDigit,
      Bool.or_eq_true, Bool.or_eq_true, beq_iff_eq, beq_iff_eq, beq_iff_eq] at h
    rcases h with (rfl | rfl) | rfl
    · exact ⟨.off, ehtField_eq_ok_iff.2 hfield⟩
    · exact ⟨.standby, ehtField_eq_ok_iff.2 hfield⟩
    · exact ⟨.on, ehtField_eq_ok_iff.2 hfield⟩

/-! ## Focuser positions -/

/-- The focuser position whose sign stands at `offset`, with its magnitude behind. -/
def focusField (frame : Bytes) (offset : Nat) : Outcome Int16 := do
  let magnitude ← frame.decimalField (offset + 1) 3
  let sign ← frame.byteAt offset
  focusOfWire sign magnitude offset

theorem exists_focusField_iff :
    (∃ position, frame.focusField offset = .ok position) ↔
      frame.Spells offset (offset + 1) isFocusSign ∧
        frame.Spells (offset + 1) (offset + 4) isDecimal := by
  rw [← exists_byteAt_iff, ← exists_decimalField_iff (by decide : 0 < 3) (by decide)]
  constructor
  · rintro ⟨position, h⟩
    obtain ⟨magnitude, hm, h⟩ := bind_eq_ok.1 h
    obtain ⟨sign, hsign, h⟩ := bind_eq_ok.1 h
    exact ⟨⟨sign, hsign, (exists_focusOfWire_iff (decimalField_lt hm)).1 ⟨position, h⟩⟩,
      magnitude, hm⟩
  · rintro ⟨⟨sign, hsign, hvalid⟩, magnitude, hm⟩
    obtain ⟨position, h⟩ := (exists_focusOfWire_iff (decimalField_lt hm)).2 hvalid
    exact ⟨position, bind_eq_ok.2 ⟨magnitude, hm, bind_eq_ok.2 ⟨sign, hsign, h⟩⟩⟩

/-- Two fields, one behind the other, are one. -/
theorem field_add (hxs : frame.field offset width = .ok xs)
    (hys : frame.field (offset + width) width' = .ok ys) :
    frame.field offset (width + width') = .ok (xs ++ ys) := by
  rw [field_eq_ok_iff] at hxs hys ⊢
  rw [List.take_add, List.drop_drop, hxs.2, hys.2]
  exact ⟨by omega, rfl⟩

/-- **A focuser position is written as it was read**, but for a negative zero. -/
theorem field_focusToWire_iff {position : Int16} (h : frame.focusField offset = .ok position) :
    (frame.field offset 1 = .ok [(focusToWire position).1] ∧
        frame.field (offset + 1) 3 = .ok (writeDecimal 3 (focusToWire position).2)) ↔
      frame.extract offset (offset + 4) ≠ ascii ['F', '0', '0', '0'] := by
  obtain ⟨magnitude, hm, h⟩ := bind_eq_ok.1 h
  obtain ⟨sign, hsign, h⟩ := bind_eq_ok.1 h
  have hfirst := field_of_byteAt hsign
  have hrest := field_of_decimalField hm
  have hlt := decimalField_lt hm
  rw [hfirst, hrest, extract_of_field (field_add hfirst hrest), focusToWire_of_focusOfWire h hlt]
  split
  case isTrue hzero =>
    rw [hzero.1, hzero.2]
    exact iff_of_false (fun hc => absurd hc.1 (by decide)) (not_not_intro rfl)
  case isFalse hzero =>
    refine iff_of_true ⟨rfl, rfl⟩ fun hc => hzero ?_
    obtain ⟨rfl, hdigits⟩ : sign = 'F'.toUInt8 ∧
        writeDecimal 3 magnitude = ascii ['0', '0', '0'] := List.cons.inj hc
    have hread := readDecimal_writeDecimal 3 magnitude
    rw [hdigits, Nat.mod_eq_of_lt hlt, UInt32.ofNat_toNat] at hread
    exact ⟨rfl, (Except.ok.inj hread).symm⟩

end DomeLink.Bytes
