import DomeLink.Command.Reconcile
import DomeLink.Proofs.Command.Change
import DomeLink.Proofs.Command.RoundTrip
import DomeLink.Proofs.Status.Range

/-!
# Well-formed commands

A command is well-formed when its quantities are within their limits (`InRange`), its flag words
have named flags only (`Defined`), and no mechanism is asked for two things that exclude each other
(`Consistent`). A new command is well-formed, and stays so through every change that passes its
check, through every status that is read from a frame, and through the clearing of one-shot bits.

* `changeAll_wellFormed`, `seed_wellFormed`, `confirm_wellFormed`, `clearOneShots_wellFormed`: what
  can happen to a command.
* `decode_encode_of_wellFormed`: the frame of a well-formed command carries all of it.
-/

namespace DomeLink

namespace Flags

variable {t : FlagTable}

/-- At most one of the flags is set. -/
def Exclusive (flags : List (Flags t)) (x : Flags t) : Prop := flags.countP x.has ≤ 1

instance (flags : List (Flags t)) (x : Flags t) : Decidable (Exclusive flags x) :=
  inferInstanceAs (Decidable (_ ≤ _))

theorem Exclusive.mono {flags : List (Flags t)} {x y : Flags t} (hx : Exclusive flags x)
    (h : ∀ f ∈ flags, y.has f = true → x.has f = true) : Exclusive flags y :=
  Nat.le_trans (List.countP_mono_left h) hx

theorem Exclusive.insert {flags : List (Flags t)} {x m : Flags t} (hx : Exclusive flags x)
    (h : ∀ f ∈ flags, f.meets m = false) : Exclusive flags (x.insert m) :=
  hx.mono fun f hf hy => (has_insert_of_disjoint (h f hf)).symm.trans hy

theorem Exclusive.eraseWhen {flags : List (Flags t)} {x : Flags t} (hx : Exclusive flags x)
    (m : Flags t) (on : Bool) : Exclusive flags (Command.eraseWhen x m on) :=
  hx.mono fun f _ hy => by
    cases on with
    | false => exact hy
    | true => exact has_trans (has_of_erase m (has_self x)) hy

end Flags

namespace Command

open Flags

/-- The quantities of the command are within their limits. -/
structure InRange (c : Command) : Prop where
  domeTarget : c.domeTarget.toNat ≤ 3599
  focusTarget : c.focusTarget.toInt.natAbs ≤ 999
  apertureSlot : c.apertureSlot.toNat ≤ 9
  filterSlot : c.filterSlot.toNat ≤ 9
  domeFlopMin : c.domeFlopMin.toNat ≤ 9999
  domeFlopMax : c.domeFlopMax.toNat ≤ 9999

/-- The flag words of the command have named flags only. -/
structure Defined (c : Command) : Prop where
  dome : known.has c.dome = true
  shutter : known.has c.shutter = true
  dropout : known.has c.dropout = true
  focus : known.has c.focus = true
  aperture : known.has c.aperture = true
  filter : known.has c.filter = true
  acqMirror : known.has c.acqMirror = true
  misc : known.has c.misc = true

/-- No mechanism is asked for two things that exclude each other. -/
structure Consistent (c : Command) : Prop where
  dome : Exclusive [DomeCommand.goto, DomeCommand.moveLeft, DomeCommand.moveRight] c.dome
  shutter : Exclusive [ShutterCommand.opening, ShutterCommand.closing] c.shutter
  dropout : Exclusive [DropoutCommand.opening, DropoutCommand.closing] c.dropout
  focus : Exclusive [FocusCommand.goto, FocusCommand.moveOut, FocusCommand.moveIn] c.focus
  acqMirror : Exclusive [AcqMirrorCommand.view, AcqMirrorCommand.measure] c.acqMirror

/-- A command that the controller can carry out as it is. -/
structure WellFormed (c : Command) : Prop where
  inRange : c.InRange
  defined : c.Defined
  consistent : c.Consistent

theorem wellFormed_default : WellFormed {} where
  inRange := by constructor <;> decide
  defined := by constructor <;> decide
  consistent := by constructor <;> decide

/-! ## Changes -/

theorem make_inRange {c : Command} {m : Change} (hm : m.check = .ok ()) (h : c.InRange) :
    (c.make m).InRange := by
  cases m with
  | domeTarget azimuth guide =>
    have hle : (azimuth.toNat : Int) ≤ 3599 := (Quantity.check_eq_ok.1 hm).2
    exact { h with domeTarget := by simp only [make, setDomeTarget, control]; omega }
  | focusGoto position =>
    have hlo : -999 ≤ position.toInt := (Quantity.check_eq_ok.1 hm).1
    have hhi : position.toInt ≤ 999 := (Quantity.check_eq_ok.1 hm).2
    exact { h with focusTarget := by simp only [make, setFocusTarget, control]; omega }
  | wheel wheel action =>
    cases action with
    | goto slot =>
      have hle : (slot.toNat : Int) ≤ 9 := (Quantity.check_eq_ok.1 hm).2
      cases wheel with
      | aperture => exact { h with apertureSlot := by simp only [make, setWheel, control]; omega }
      | filter => exact { h with filterSlot := by simp only [make, setWheel, control]; omega }
    | init => cases wheel <;> exact { h with }
    | reset => cases wheel <;> exact { h with }
  | domeFlop low high =>
    obtain ⟨_, hlow, hhigh⟩ := bind_eq_ok.1 hm
    have hlow : (low.toNat : Int) ≤ 9999 := (Quantity.check_eq_ok.1 hlow).2
    have hhigh : (high.toNat : Int) ≤ 9999 := (Quantity.check_eq_ok.1 hhigh).2
    exact { h with
      domeFlopMin := by simp only [make, control]; omega
      domeFlopMax := by simp only [make, control]; omega }
  | acqMirror action => cases action <;> exact { h with }
  | _ => exact { h with }

theorem make_defined (m : Change) {c : Command} (h : c.Defined) : (c.make m).Defined := by
  cases m with
  | watchdog alive => exact { h with misc := has_of_assign alive h.misc rfl }
  | domeTarget azimuth guide =>
    exact { h with dome := has_of_assign guide (has_of_insert (has_of_erase _ h.dome) rfl) rfl }
  | domeMove motion =>
    have still := has_of_erase (DomeCommand.byHand.insert DomeCommand.goto) h.dome
    cases motion with
    | stop => exact { h with dome := has_of_erase _ still }
    | left => exact { h with dome := has_of_insert still rfl }
    | right => exact { h with dome := has_of_insert still rfl }
  | shutter action =>
    cases action <;> exact { h with shutter := by simp only [make, setShutter]; decide }
  | dropout action =>
    cases action <;> exact { h with dropout := by simp only [make, setDropout]; decide }
  | focusGoto position =>
    exact { h with focus := has_of_insert (has_of_erase _ h.focus) rfl }
  | focusMove motion =>
    have still := has_of_erase (FocusCommand.goto.insert FocusCommand.byHand) h.focus
    cases motion with
    | stop => exact { h with focus := still }
    | outward => exact { h with focus := has_of_insert still rfl }
    | inward => exact { h with focus := has_of_insert still rfl }
  | focusReset => exact { h with focus := has_of_insert h.focus rfl }
  | instrumentShutter isOpen => exact { h with misc := has_of_assign isOpen h.misc rfl }
  | acqMirror action =>
    cases action with
    | view => exact { h with acqMirror := has_of_insert (has_of_erase _ h.acqMirror) rfl }
    | measure => exact { h with acqMirror := has_of_insert (has_of_erase _ h.acqMirror) rfl }
    | reset => exact { h with acqMirror := has_of_insert h.acqMirror rfl }
  | wheel wheel action =>
    cases wheel with
    | aperture => cases action <;> exact { h with aperture := has_of_insert h.aperture rfl }
    | filter => cases action <;> exact { h with filter := has_of_insert h.filter rfl }
  | acqDeviceReset => exact { h with misc := has_of_insert h.misc rfl }
  | eht | domeFlop => exact { h with }

theorem make_consistent (m : Change) {c : Command} (h : c.Consistent) :
    (c.make m).Consistent := by
  cases m with
  | domeTarget azimuth guide =>
    exact { h with
      dome := by
        simp (disch := decide) [Exclusive, List.countP_cons, make, setDomeTarget, control] }
  | domeMove motion =>
    cases motion <;>
      exact { h with
        dome := by simp (disch := decide) [Exclusive, List.countP_cons, make, setDomeMove] }
  | shutter action =>
    cases action <;> exact { h with shutter := by simp only [make, setShutter]; decide }
  | dropout action =>
    cases action <;> exact { h with dropout := by simp only [make, setDropout]; decide }
  | focusGoto position =>
    exact { h with
      focus := by
        simp (disch := decide) [Exclusive, List.countP_cons, make, setFocusTarget, control] }
  | focusMove motion =>
    cases motion <;>
      exact { h with
        focus := by simp (disch := decide) [Exclusive, List.countP_cons, make, setFocusMove] }
  | focusReset => exact { h with focus := h.focus.insert (by decide) }
  | acqMirror action =>
    cases action with
    | view =>
      exact { h with
        acqMirror := by
          simp (disch := decide) [Exclusive, List.countP_cons, make, setAcqMirror, control] }
    | measure =>
      exact { h with
        acqMirror := by
          simp (disch := decide) [Exclusive, List.countP_cons, make, setAcqMirror, control] }
    | reset => exact { h with acqMirror := h.acqMirror.insert (by decide) }
  | wheel wheel action => cases wheel <;> cases action <;> exact { h with }
  | _ => exact { h with }

/-- **Changes that pass their checks keep a command well-formed.** -/
theorem changeAll_wellFormed {c c' : Command} {ms : List Change} (hms : c.changeAll ms = .ok c')
    (h : c.WellFormed) : c'.WellFormed :=
  changeAll_preserves
    (fun _ m hm h => ⟨make_inRange hm h.inRange, make_defined m h.defined,
      make_consistent m h.consistent⟩)
    hms h

/-! ## Reported status -/

theorem seed_inRange {c : Command} {s : Status} (h : c.InRange) (hs : s.InRange) :
    (c.seed s).InRange := by
  constructor
  all_goals
    simp only [seed]
    split
  · exact hs.domeAzimuth
  · exact h.domeTarget
  · exact hs.focusPosition
  · exact h.focusTarget
  · exact hs.apertureSlot
  · exact h.apertureSlot
  · exact hs.filterSlot
  · exact h.filterSlot
  · exact hs.domeFlopMin
  · exact h.domeFlopMin
  · exact hs.domeFlopMax
  · exact h.domeFlopMax

theorem known_has_mirrorFor {current : AcqMirrorCommand} (h : known.has current = true)
    (status : AcqMirrorStatus) : known.has (mirrorFor current status) = true := by
  have still := has_of_erase (AcqMirrorCommand.view.insert AcqMirrorCommand.measure) h
  unfold mirrorFor
  split
  · exact has_of_insert still rfl
  · split
    · exact has_of_insert still rfl
    · exact still

theorem seed_defined {c : Command} (s : Status) (h : c.Defined) : (c.seed s).Defined where
  dome := h.dome
  shutter := h.shutter
  dropout := h.dropout
  focus := h.focus
  aperture := h.aperture
  filter := h.filter
  acqMirror := by
    simp only [seed]
    split
    · exact known_has_mirrorFor h.acqMirror s.acqMirror
    · exact h.acqMirror
  misc := by
    simp only [seed]
    split
    · exact has_of_assign _ h.misc rfl
    · exact h.misc

theorem exclusive_mirrorFor (current : AcqMirrorCommand) (status : AcqMirrorStatus) :
    Exclusive [AcqMirrorCommand.view, AcqMirrorCommand.measure] (mirrorFor current status) := by
  unfold mirrorFor
  split
  · simp (disch := decide) [Exclusive, List.countP_cons]
  · split <;> simp (disch := decide) [Exclusive, List.countP_cons]

theorem seed_consistent {c : Command} (s : Status) (h : c.Consistent) :
    (c.seed s).Consistent where
  dome := h.dome
  shutter := h.shutter
  dropout := h.dropout
  focus := h.focus
  acqMirror := by
    simp only [seed]
    split
    · exact exclusive_mirrorFor c.acqMirror s.acqMirror
    · exact h.acqMirror

/-- **The first status keeps a command well-formed.** -/
theorem seed_wellFormed {c : Command} {s : Status} (h : c.WellFormed) (hs : s.InRange) :
    (c.seed s).WellFormed :=
  ⟨seed_inRange h.inRange hs, seed_defined s h.defined, seed_consistent s h.consistent⟩

/-- **A later status keeps a command well-formed.** -/
theorem confirm_wellFormed {c : Command} (s : Status) (h : c.WellFormed) :
    (c.confirm s).WellFormed where
  inRange := { h.inRange with }
  defined := { h.defined with
    shutter := has_of_eraseWhen _ _ (has_of_eraseWhen _ _ h.defined.shutter)
    dropout := has_of_eraseWhen _ _ (has_of_eraseWhen _ _ h.defined.dropout) }
  consistent := { h.consistent with
    shutter := (h.consistent.shutter.eraseWhen _ _).eraseWhen _ _
    dropout := (h.consistent.dropout.eraseWhen _ _).eraseWhen _ _ }

/-! ## One-shot bits -/

/-- **Clearing one-shot bits keeps a command well-formed.** -/
theorem clearOneShots_wellFormed {c : Command} (bits : OneShot) (h : c.WellFormed) :
    (c.clearOneShots bits).WellFormed where
  inRange := { h.inRange with }
  defined := { h.defined with
    focus := has_of_eraseWhen _ _ h.defined.focus
    aperture := has_of_eraseWhen _ _ (has_of_eraseWhen _ _ h.defined.aperture)
    filter := has_of_eraseWhen _ _ (has_of_eraseWhen _ _ h.defined.filter)
    acqMirror := has_of_eraseWhen _ _ h.defined.acqMirror
    misc := has_of_eraseWhen _ _ h.defined.misc }
  consistent := { h.consistent with
    focus := h.consistent.focus.eraseWhen _ _
    acqMirror := h.consistent.acqMirror.eraseWhen _ _ }

theorem forgetRequested_wellFormed {c : Command} (h : c.WellFormed) :
    c.forgetRequested.WellFormed where
  inRange := { h.inRange with }
  defined := { h.defined with }
  consistent := { h.consistent with }

/-! ## The frame of a well-formed command -/

/-- Every flag word fits into its digit. -/
structure OneDigit (c : Command) : Prop where
  dome : c.dome.toNat ≤ 0xF
  shutter : c.shutter.toNat ≤ 0xF
  dropout : c.dropout.toNat ≤ 0xF
  focus : c.focus.toNat ≤ 0xF
  aperture : c.aperture.toNat ≤ 0xF
  filter : c.filter.toNat ≤ 0xF
  acqMirror : c.acqMirror.toNat ≤ 0xF
  misc : c.misc.toNat ≤ 0xF

/-- **Quantities within their limits and flag words of one digit** are carried whole. -/
theorem carried_eq_wire_of_inRange {c : Command} (hrange : c.InRange) (hdigits : c.OneDigit) :
    c.carried = c.wire := by
  rw [carried, min_azimuth_eq_self hrange.domeTarget, carriedFocus_eq_self hrange.focusTarget,
    mod_eq_self_of_slot hrange.apertureSlot, mod_eq_self_of_slot hrange.filterSlot,
    mod_eq_self_of_flop hrange.domeFlopMin, mod_eq_self_of_flop hrange.domeFlopMax,
    Flags.nibble_eq_of_toNat_le hdigits.dome, Flags.nibble_eq_of_toNat_le hdigits.shutter,
    Flags.nibble_eq_of_toNat_le hdigits.dropout, Flags.nibble_eq_of_toNat_le hdigits.focus,
    Flags.nibble_eq_of_toNat_le hdigits.aperture, Flags.nibble_eq_of_toNat_le hdigits.filter,
    Flags.nibble_eq_of_toNat_le hdigits.acqMirror, Flags.nibble_eq_of_toNat_le hdigits.misc]
  rfl

/-- The named flags have one digit. -/
theorem toNat_le_of_known {t : FlagTable} {x : Flags t}
    (ht : (ofNat 0x0F : Flags t).has known = true) (h : known.has x = true) : x.toNat ≤ 0xF := by
  rw [← nibble_eq_self (has_trans ht h), toNat_nibble]
  exact Nat.le_of_lt_succ (Nat.mod_lt _ (by decide))

theorem Defined.oneDigit {c : Command} (h : c.Defined) : c.OneDigit where
  dome := toNat_le_of_known rfl h.dome
  shutter := toNat_le_of_known rfl h.shutter
  dropout := toNat_le_of_known rfl h.dropout
  focus := toNat_le_of_known rfl h.focus
  aperture := toNat_le_of_known rfl h.aperture
  filter := toNat_le_of_known rfl h.filter
  acqMirror := toNat_le_of_known rfl h.acqMirror
  misc := toNat_le_of_known rfl h.misc

theorem carried_eq_wire {c : Command} (h : c.WellFormed) : c.carried = c.wire :=
  carried_eq_wire_of_inRange h.inRange h.defined.oneDigit

/-- **The frame of a well-formed command carries all of it.** -/
theorem decode_encode_of_wellFormed {c : Command} (h : c.WellFormed) :
    decode c.encode = .ok c.wire := by
  rw [decode_encode, carried_eq_wire h]

end Command

end DomeLink
