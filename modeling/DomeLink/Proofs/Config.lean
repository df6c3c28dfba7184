import DomeLink.Config.Basic
import DomeLink.Proofs.Outcome
import DomeLink.Session.Basic

/-!
# Configurations that are accepted

`Config.Sound` says what a link needs of its settings, and `check_eq_ok_iff` that the check of a
configuration accepts exactly the sound ones. What the rest of the development uses of an accepted
configuration is read off it.

* `period_pos`: no timer has a period of zero.
* `le_rxCapacity`: there is room for every reply.
-/

namespace DomeLink.Config

/-- **The settings that a link can run with.** -/
structure Sound (c : Config) : Prop where
  dataBits : c.serial.dataBits = 7 ∨ c.serial.dataBits = 8
  stopBits : c.serial.stopBits = 1 ∨ c.serial.stopBits = 2
  /-- The assembler can hold a status reply. -/
  rxCapacity : Frame.statusReplyLength ≤ c.rxCapacity.toNat
  noZero : c.timing.hasZero = false
  /-- No period is longer than a day. -/
  longest : c.timing.longest ≤ Timing.maxMs
  aperture : c.safeSlots.aperture.toNat ≤ Quantity.wheelSlot.limit
  filter : c.safeSlots.filter.toNat ≤ Quantity.wheelSlot.limit

/-- **The check accepts the sound configurations**, and no others. -/
theorem check_eq_ok_iff {c : Config} : c.check = .ok () ↔ c.Sound := by
  simp only [check, demand_eq_ok, refuse_eq_ok, refuse_last_eq_ok, Nat.not_lt, UInt64.not_lt,
    not_or, Bool.not_eq_true]
  constructor
  · rintro ⟨hdata, hstop, hcapacity, hzero, hlongest, haperture, hfilter⟩
    exact ⟨hdata, hstop, hcapacity, hzero, hlongest, haperture, hfilter⟩
  · rintro ⟨hdata, hstop, hcapacity, hzero, hlongest, haperture, hfilter⟩
    exact ⟨hdata, hstop, hcapacity, hzero, hlongest, haperture, hfilter⟩

variable {config : Config}

/-- A configuration that is accepted has no period that is zero. -/
theorem period_pos (h : config.check = .ok ()) (timer : Timer) :
    0 < config.timing.period timer := by
  have hzero := (check_eq_ok_iff.1 h).noZero
  simp only [Timing.hasZero, Bool.or_eq_false_iff, decide_eq_false_iff_not] at hzero
  have hpos {ms : UInt64} (hms : ¬ ms = 0) : 0 < ms.toNat :=
    Nat.pos_of_ne_zero fun h => hms (UInt64.toNat_inj.1 h)
  cases timer with
  | response => exact hpos hzero.1.1
  | statusPoll => exact hpos hzero.1.2
  | heartbeat => exact hpos hzero.2

/-- An accepted configuration leaves room for every reply. -/
theorem le_rxCapacity (h : config.check = .ok ()) : 78 ≤ config.rxCapacity.toNat :=
  Nat.le_trans (by decide) (check_eq_ok_iff.1 h).rxCapacity

end DomeLink.Config
