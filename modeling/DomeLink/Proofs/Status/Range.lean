import DomeLink.Proofs.Mechanism
import DomeLink.Proofs.Wire.Spelling
import DomeLink.Status.Codec

/-!
# What a status reply can say

Every field has a fixed number of digits, so whatever the controller answers, the quantities of a
status that is read lie within their limits.

* `decode_inRange`: a status that is read from a frame is in range.
-/

namespace DomeLink

namespace Status

/-- The quantities of a status are within their limits. -/
structure InRange (s : Status) : Prop where
  domeAzimuth : s.domeAzimuth.toNat ≤ 3599
  focusPosition : s.focusPosition.toInt.natAbs ≤ 999
  apertureSlot : s.apertureSlot.toNat ≤ 9
  filterSlot : s.filterSlot.toNat ≤ 9
  domeFlopMin : s.domeFlopMin.toNat ≤ 9999
  domeFlopMax : s.domeFlopMax.toNat ≤ 9999
  haPulses : s.haPulses.toNat < 10 ^ 8
  decPulses : s.decPulses.toNat < 10 ^ 8

theorem natAbs_focusAt_le {frame : Bytes} {position : Int16} (h : focusAt frame = .ok position) :
    position.toInt.natAbs ≤ 999 := by
  obtain ⟨magnitude, hm, h⟩ := bind_eq_ok.1 h
  obtain ⟨sign, _, h⟩ := bind_eq_ok.1 h
  exact natAbs_focusOfWire_le h (Bytes.decimalField_lt hm)

theorem toNat_toUInt8_le {v : UInt32} (h : v.toNat < 10) : v.toUInt8.toNat ≤ 9 := by
  rw [UInt32.toNat_toUInt8]
  omega

theorem toNat_toUInt16_le {v : UInt32} (h : v.toNat < 10000) : v.toUInt16.toNat ≤ 9999 := by
  rw [UInt32.toNat_toUInt16]
  omega

/-- **A status that is read from a frame is in range.** -/
theorem decode_inRange {frame : Bytes} {s : Status} (h : decode frame = .ok s) : s.InRange := by
  simp only [decode, bind_eq_ok] at h
  obtain ⟨_, _, _, _, azimuth, hazimuth, h⟩ := h
  obtain ⟨_, _, _, _, _, _, _, _, _, _, _, _, _, _, h⟩ := h
  obtain ⟨position, hposition, h⟩ := h
  obtain ⟨_, _, _, _, _, _, _, _, _, _, h⟩ := h
  obtain ⟨aperture, haperture, filter, hfilter, low, hlow, high, hhigh, h⟩ := h
  obtain ⟨ha, hha, dec, hdec, h⟩ := h
  rw [← Except.ok.inj h]
  exact {
    domeAzimuth := UInt16.le_iff_toNat_le.1 (azimuthOfTicks_le hazimuth)
    focusPosition := natAbs_focusAt_le hposition
    apertureSlot := toNat_toUInt8_le (Bytes.decimalField_lt haperture)
    filterSlot := toNat_toUInt8_le (Bytes.decimalField_lt hfilter)
    domeFlopMin := toNat_toUInt16_le (Bytes.decimalField_lt hlow)
    domeFlopMax := toNat_toUInt16_le (Bytes.decimalField_lt hhigh)
    haPulses := Bytes.decimalField_lt hha
    decPulses := Bytes.decimalField_lt hdec }

end Status

end DomeLink
