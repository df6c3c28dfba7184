import DomeLink.Proofs.Status.Range
import DomeLink.Proofs.Status.RoundTrip

/-!
# What a status reply keeps of a status

A simulated controller can be in any state, also in one that the digits of a reply have no room for.
Its reply is read back as what the digits carry (`Status.carried`), and `Keeps` says what that is in
numbers: the azimuth is capped, a flag word of one digit keeps its low four bits, a quantity keeps
its last digits, and everything else is kept whole. So a reply carries all of a status exactly if
its quantities are within their limits and its flag words fit their digits.

* `keeps_carried`: what a reply carries, in numbers.
* `carried_eq_self_iff`: when that is the status itself.
* `reply_read_back`: every reply is read back so, with its carriage return or without it.
-/

namespace DomeLink.Status

/-- Every flag word that has one digit of the reply fits into it. -/
structure OneDigit (s : Status) : Prop where
  dome : s.dome.toNat ≤ 0xF
  shutter : s.shutter.toNat ≤ 0xF
  dropout : s.dropout.toNat ≤ 0xF
  aperture : s.aperture.toNat ≤ 0xF
  filter : s.filter.toNat ≤ 0xF
  acqMirror : s.acqMirror.toNat ≤ 0xF
  instrumentShutter : s.instrumentShutter.toNat ≤ 0xF
  critical : s.critical.toNat ≤ 0xF

/-- **A reply carries all of a status** whose values fit its digits. -/
theorem carried_eq_self {s : Status} (hrange : s.InRange) (hdigits : s.OneDigit) :
    s.carried = s := by
  have hpulses {v : UInt32} (hv : v.toNat < 10 ^ 8) : UInt32.ofNat (v.toNat % 10 ^ 8) = v := by
    rw [Nat.mod_eq_of_lt hv, UInt32.ofNat_toNat]
  rw [carried, min_azimuth_eq_self hrange.domeAzimuth, carriedFocus_eq_self hrange.focusPosition,
    mod_eq_self_of_slot hrange.apertureSlot, mod_eq_self_of_slot hrange.filterSlot,
    mod_eq_self_of_flop hrange.domeFlopMin, mod_eq_self_of_flop hrange.domeFlopMax,
    hpulses hrange.haPulses, hpulses hrange.decPulses,
    Flags.nibble_eq_of_toNat_le hdigits.dome, Flags.nibble_eq_of_toNat_le hdigits.shutter,
    Flags.nibble_eq_of_toNat_le hdigits.dropout, Flags.nibble_eq_of_toNat_le hdigits.aperture,
    Flags.nibble_eq_of_toNat_le hdigits.filter, Flags.nibble_eq_of_toNat_le hdigits.acqMirror,
    Flags.nibble_eq_of_toNat_le hdigits.instrumentShutter,
    Flags.nibble_eq_of_toNat_le hdigits.critical]

/-- **What the digits of a reply keep of a status**, in numbers. -/
structure Keeps (s kept : Status) : Prop where
  domeAzimuth : kept.domeAzimuth.toNat = min s.domeAzimuth.toNat 3599
  dome : kept.dome.toNat = s.dome.toNat % 16
  shutter : kept.shutter.toNat = s.shutter.toNat % 16
  dropout : kept.dropout.toNat = s.dropout.toNat % 16
  aperture : kept.aperture.toNat = s.aperture.toNat % 16
  filter : kept.filter.toNat = s.filter.toNat % 16
  acqMirror : kept.acqMirror.toNat = s.acqMirror.toNat % 16
  instrumentShutter : kept.instrumentShutter.toNat = s.instrumentShutter.toNat % 16
  /-- The sign, and three digits of the magnitude. -/
  focusPosition : kept.focusPosition.toInt =
    s.focusPosition.toInt.sign * (s.focusPosition.toInt.natAbs % 1000 : Nat)
  /-- The only flag word of two digits. -/
  focus : kept.focus = s.focus
  critical : kept.critical.toNat = s.critical.toNat % 16
  eht : kept.eht = s.eht
  handset : kept.handset = s.handset
  apertureSlot : kept.apertureSlot.toNat = s.apertureSlot.toNat % 10
  filterSlot : kept.filterSlot.toNat = s.filterSlot.toNat % 10
  domeFlopMin : kept.domeFlopMin.toNat = s.domeFlopMin.toNat % 10000
  domeFlopMax : kept.domeFlopMax.toNat = s.domeFlopMax.toNat % 10000
  haPulses : kept.haPulses.toNat = s.haPulses.toNat % 10 ^ 8
  decPulses : kept.decPulses.toNat = s.decPulses.toNat % 10 ^ 8

/-- A reply keeps what its digits carry. -/
theorem keeps_carried (s : Status) : s.Keeps s.carried where
  domeAzimuth := toNat_min_azimuth s.domeAzimuth
  dome := s.dome.toNat_nibble
  shutter := s.shutter.toNat_nibble
  dropout := s.dropout.toNat_nibble
  aperture := s.aperture.toNat_nibble
  filter := s.filter.toNat_nibble
  acqMirror := s.acqMirror.toNat_nibble
  instrumentShutter := s.instrumentShutter.toNat_nibble
  focusPosition := toInt_carriedFocus s.focusPosition
  focus := rfl
  critical := s.critical.toNat_nibble
  eht := rfl
  handset := rfl
  apertureSlot := UInt8.toNat_mod ..
  filterSlot := UInt8.toNat_mod ..
  domeFlopMin := UInt16.toNat_mod ..
  domeFlopMax := UInt16.toNat_mod ..
  haPulses := Digits.toNat_ofNat_of_le (Nat.mod_le _ _)
  decPulses := Digits.toNat_ofNat_of_le (Nat.mod_le _ _)

/-- A status of which all is kept fits the digits. -/
theorem Keeps.inRange {s : Status} (h : s.Keeps s) : s.InRange where
  domeAzimuth := by
    rw [h.domeAzimuth]
    exact Nat.min_le_right _ _
  focusPosition := natAbs_le_of_eq_sign_mul_mod h.focusPosition
  apertureSlot := Nat.le_of_lt_succ (lt_of_eq_mod (by decide) h.apertureSlot)
  filterSlot := Nat.le_of_lt_succ (lt_of_eq_mod (by decide) h.filterSlot)
  domeFlopMin := Nat.le_of_lt_succ (lt_of_eq_mod (by decide) h.domeFlopMin)
  domeFlopMax := Nat.le_of_lt_succ (lt_of_eq_mod (by decide) h.domeFlopMax)
  haPulses := lt_of_eq_mod (by decide) h.haPulses
  decPulses := lt_of_eq_mod (by decide) h.decPulses

theorem Keeps.oneDigit {s : Status} (h : s.Keeps s) : s.OneDigit where
  dome := Nat.le_of_lt_succ (lt_of_eq_mod (by decide) h.dome)
  shutter := Nat.le_of_lt_succ (lt_of_eq_mod (by decide) h.shutter)
  dropout := Nat.le_of_lt_succ (lt_of_eq_mod (by decide) h.dropout)
  aperture := Nat.le_of_lt_succ (lt_of_eq_mod (by decide) h.aperture)
  filter := Nat.le_of_lt_succ (lt_of_eq_mod (by decide) h.filter)
  acqMirror := Nat.le_of_lt_succ (lt_of_eq_mod (by decide) h.acqMirror)
  instrumentShutter := Nat.le_of_lt_succ (lt_of_eq_mod (by decide) h.instrumentShutter)
  critical := Nat.le_of_lt_succ (lt_of_eq_mod (by decide) h.critical)

/-- **A reply carries all of a status** exactly if its values fit the digits. -/
theorem carried_eq_self_iff {s : Status} : s.carried = s ↔ s.InRange ∧ s.OneDigit := by
  constructor
  · intro h
    have hkeeps := s.keeps_carried
    rw [h] at hkeeps
    exact ⟨hkeeps.inRange, hkeeps.oneDigit⟩
  · rintro ⟨hrange, hdigits⟩
    exact carried_eq_self hrange hdigits

/-- A reply ends with its carriage return. -/
theorem encode_eq_concat (s : Status) : s.encode = s.encode.dropLast ++ [Bytes.cr] := by
  rw [encode, Checksum.terminate_eq_close, List.dropLast_concat]

/-- **Every status reply is read back**, with its carriage return or without it, as what its digits
keep of the status: all of it exactly if the values fit. -/
theorem reply_read_back (s : Status) :
    s.Keeps s.carried ∧ decode s.encode = .ok s.carried ∧
      (∃ body, s.encode = body ++ [Bytes.cr] ∧ decode body = .ok s.carried) ∧
      (decode s.encode = .ok s ↔ s.InRange ∧ s.OneDigit) := by
  refine ⟨s.keeps_carried, s.decode_encode, ⟨_, s.encode_eq_concat, s.decode_dropLast_encode⟩, ?_⟩
  rw [decode_encode, ← carried_eq_self_iff]
  exact ⟨Except.ok.inj, congrArg Except.ok⟩

/-- The magnitude of the least position is 32768, of which the last three digits are kept. -/
example :
    (decode (encode { focusPosition := Int16.minValue, apertureSlot := 255 })).toOption =
      some { focusPosition := -768, apertureSlot := 5 } := by
  decide +kernel

end DomeLink.Status
