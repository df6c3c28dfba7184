import DomeLink.Proofs.Command.WellFormed

/-!
# What a command frame keeps of a command

A command frame has digits for every mechanism, and none for the bookkeeping. It is read back as
what the digits carry (`Command.carried`), whatever the command, and `Keeps` says what that is in
numbers: the azimuth is capped, a flag word keeps its low four bits, a quantity its last digits, and
the high-voltage mode is kept whole. So all but the bookkeeping arrives exactly if the quantities
are within their limits and the flag words fit their digits.

* `keeps_carried`: what a frame carries, in numbers.
* `carried_eq_wire_iff`: when that is all but the bookkeeping.
* `frame_read_back`: every command frame is read back so, with its carriage return or without it.
-/

namespace DomeLink.Command

/-- **What the digits of a frame keep of a command**, in numbers. -/
structure Keeps (c kept : Command) : Prop where
  domeTarget : kept.domeTarget.toNat = min c.domeTarget.toNat 3599
  dome : kept.dome.toNat = c.dome.toNat % 16
  shutter : kept.shutter.toNat = c.shutter.toNat % 16
  dropout : kept.dropout.toNat = c.dropout.toNat % 16
  focus : kept.focus.toNat = c.focus.toNat % 16
  /-- The sign, and three digits of the magnitude. -/
  focusTarget : kept.focusTarget.toInt =
    c.focusTarget.toInt.sign * (c.focusTarget.toInt.natAbs % 1000 : Nat)
  aperture : kept.aperture.toNat = c.aperture.toNat % 16
  apertureSlot : kept.apertureSlot.toNat = c.apertureSlot.toNat % 10
  filter : kept.filter.toNat = c.filter.toNat % 16
  filterSlot : kept.filterSlot.toNat = c.filterSlot.toNat % 10
  eht : kept.eht = c.eht
  acqMirror : kept.acqMirror.toNat = c.acqMirror.toNat % 16
  misc : kept.misc.toNat = c.misc.toNat % 16
  domeFlopMin : kept.domeFlopMin.toNat = c.domeFlopMin.toNat % 10000
  domeFlopMax : kept.domeFlopMax.toNat = c.domeFlopMax.toNat % 10000
  /-- The bookkeeping does not travel. -/
  controlled : kept.controlled = ∅
  requested : kept.requested = ∅

variable {c : Command}

/-- A frame keeps what its digits carry. -/
theorem keeps_carried (c : Command) : c.Keeps c.carried where
  domeTarget := toNat_min_azimuth c.domeTarget
  dome := c.dome.toNat_nibble
  shutter := c.shutter.toNat_nibble
  dropout := c.dropout.toNat_nibble
  focus := c.focus.toNat_nibble
  focusTarget := toInt_carriedFocus c.focusTarget
  aperture := c.aperture.toNat_nibble
  apertureSlot := UInt8.toNat_mod ..
  filter := c.filter.toNat_nibble
  filterSlot := UInt8.toNat_mod ..
  eht := rfl
  acqMirror := c.acqMirror.toNat_nibble
  misc := c.misc.toNat_nibble
  domeFlopMin := UInt16.toNat_mod ..
  domeFlopMax := UInt16.toNat_mod ..
  controlled := rfl
  requested := rfl

/-- A command of which all but the bookkeeping is kept fits the digits. -/
theorem Keeps.inRange (h : c.Keeps c.wire) : c.InRange where
  domeTarget := Nat.le_trans (Nat.le_of_eq h.domeTarget) (Nat.min_le_right _ _)
  focusTarget := natAbs_le_of_eq_sign_mul_mod h.focusTarget
  apertureSlot := Nat.le_of_lt_succ (lt_of_eq_mod (by decide) h.apertureSlot)
  filterSlot := Nat.le_of_lt_succ (lt_of_eq_mod (by decide) h.filterSlot)
  domeFlopMin := Nat.le_of_lt_succ (lt_of_eq_mod (by decide) h.domeFlopMin)
  domeFlopMax := Nat.le_of_lt_succ (lt_of_eq_mod (by decide) h.domeFlopMax)

theorem Keeps.oneDigit (h : c.Keeps c.wire) : c.OneDigit where
  dome := Nat.le_of_lt_succ (lt_of_eq_mod (by decide) h.dome)
  shutter := Nat.le_of_lt_succ (lt_of_eq_mod (by decide) h.shutter)
  dropout := Nat.le_of_lt_succ (lt_of_eq_mod (by decide) h.dropout)
  focus := Nat.le_of_lt_succ (lt_of_eq_mod (by decide) h.focus)
  aperture := Nat.le_of_lt_succ (lt_of_eq_mod (by decide) h.aperture)
  filter := Nat.le_of_lt_succ (lt_of_eq_mod (by decide) h.filter)
  acqMirror := Nat.le_of_lt_succ (lt_of_eq_mod (by decide) h.acqMirror)
  misc := Nat.le_of_lt_succ (lt_of_eq_mod (by decide) h.misc)

/-- **A frame carries all but the bookkeeping** exactly if the values fit the digits. -/
theorem carried_eq_wire_iff : c.carried = c.wire ↔ c.InRange ∧ c.OneDigit := by
  constructor
  · intro h
    have hkeeps := c.keeps_carried
    rw [h] at hkeeps
    exact ⟨hkeeps.inRange, hkeeps.oneDigit⟩
  · rintro ⟨hrange, hdigits⟩
    exact carried_eq_wire_of_inRange hrange hdigits

/-! ## Frames -/

/-- A command frame ends with its carriage return. -/
theorem encode_eq_concat (c : Command) : c.encode = Checksum.close c.content ++ [Bytes.cr] := by
  rw [encode_eq_terminate, Checksum.terminate_eq_close]

/-- **Every command frame is read back**, with its carriage return or without it, as what its digits
keep of the command: all but the bookkeeping exactly if the values fit. -/
theorem frame_read_back (c : Command) :
    c.Keeps c.carried ∧ decode c.encode = .ok c.carried ∧
      (∃ body, c.encode = body ++ [Bytes.cr] ∧ decode body = .ok c.carried) ∧
      (decode c.encode = .ok { c with controlled := ∅, requested := ∅ } ↔
        c.InRange ∧ c.OneDigit) := by
  refine ⟨c.keeps_carried, c.decode_encode, ⟨_, c.encode_eq_concat, c.decode_close_content⟩, ?_⟩
  rw [decode_encode, ← carried_eq_wire_iff]
  exact ⟨Except.ok.inj, congrArg Except.ok⟩

/-- The magnitude of the least target is 32768, of which the last three digits are kept; the fifth
bit of a flag word is lost. -/
example :
    (decode (encode {
        focusTarget := Int16.minValue, dome := ⟨0x1F⟩, controlled := Controlled.eht })).toOption =
      some { focusTarget := -768, dome := ⟨0x0F⟩ } := by
  decide +kernel

end DomeLink.Command
