import DomeLink.Proofs.Command.OneShots
import DomeLink.Proofs.Command.Seed
import DomeLink.Proofs.Command.WellFormed
import DomeLink.Proofs.Status.Normal
import DomeLink.Simulator

/-!
# Connecting to hardware at rest

A session whose clients ask for nothing sends what the first status filled in, `seed` of an empty
command. If the hardware is at rest, it is asked for what it does already: carrying the command out
leaves it as it is.

* `Command.apply_seed`: hardware at rest stays as it is.
* `Command.confirm_seed`, `Command.oneShots_seed_default`: no status takes anything back of such a
  command, and there is no one-shot bit to be cleared.
-/

namespace DomeLink

namespace Status

/-- **The hardware is at rest**: neither the dome nor the focuser moves, and the mirror is exactly
at one of its places or is reported at neither. -/
structure AtRest (s : Status) : Prop where
  dome : s.dome = ∅
  focus : s.focus.has FocusStatus.moving = false
  acqMirror : s.acqMirror = AcqMirrorStatus.view ∨ s.acqMirror = AcqMirrorStatus.measure ∨
    s.acqMirror.has AcqMirrorStatus.view = false ∧ s.acqMirror.has AcqMirrorStatus.measure = false

end Status

namespace Command

open Flags

variable {s : Status}

/-! ## What is asked of hardware at rest -/

/-- What the first status fills in, with no flag but those of the mirror and of the instrument
shutter. -/
theorem seed_default (s : Status) : ({} : Command).seed s =
    { domeTarget := s.domeAzimuth
      focusTarget := s.focusPosition
      apertureSlot := s.apertureSlot
      filterSlot := s.filterSlot
      eht := s.eht
      acqMirror := mirrorFor ∅ s.acqMirror
      misc := (∅ : MiscCommand).assign MiscCommand.instrumentShutterOpen
        (s.instrumentShutter.has InstrumentShutterStatus.opened)
      domeFlopMin := s.domeFlopMin
      domeFlopMax := s.domeFlopMax } := rfl

/-- A mirror at rest is asked to take the place that it is at. -/
theorem mirror_of_atRest (h : s.AtRest) :
    (if (mirrorFor ∅ s.acqMirror).has AcqMirrorCommand.view then AcqMirrorStatus.view
      else if (mirrorFor ∅ s.acqMirror).has AcqMirrorCommand.measure then AcqMirrorStatus.measure
      else s.acqMirror) = s.acqMirror := by
  have hmode := SeededField.requested_mirrorFor ∅ s.acqMirror
  have hview : (mirrorFor ∅ s.acqMirror).has AcqMirrorCommand.view =
      s.acqMirror.has AcqMirrorStatus.view := congrArg MirrorMode.view hmode
  have hmeasure : (mirrorFor ∅ s.acqMirror).has AcqMirrorCommand.measure =
      (!s.acqMirror.has AcqMirrorStatus.view && s.acqMirror.has AcqMirrorStatus.measure) :=
    congrArg MirrorMode.measure hmode
  rw [hview, hmeasure]
  rcases h.acqMirror with hplace | hplace | ⟨hnot_view, hnot_measure⟩
  · rw [hplace]
    rfl
  · rw [hplace]
    rfl
  · rw [hnot_view, hnot_measure]
    rfl

/-- A focuser that is asked for nothing stops moving. -/
theorem focus_of_atRest (h : s.AtRest) : FocusCommand.apply ∅ s.focus = s.focus := by
  have hmoving : FocusStatus.moving.IsSingle := ⟨4, by decide⟩
  have hkeep := hmoving.assign_has s.focus
  rw [h.focus] at hkeep
  exact hkeep

/-- The instrument shutter is asked to be as it is. -/
theorem instrumentShutter_of_seed (s : Status) :
    s.instrumentShutter.assign InstrumentShutterStatus.opened
      (((∅ : MiscCommand).assign MiscCommand.instrumentShutterOpen
        (s.instrumentShutter.has InstrumentShutterStatus.opened)).has
          MiscCommand.instrumentShutterOpen) = s.instrumentShutter := by
  have hopened : InstrumentShutterStatus.opened.IsSingle := ⟨0, by decide⟩
  rw [has_assign_self _ (by decide), hopened.assign_has]

/-- A wheel that is asked for nothing keeps its slot. -/
theorem wheel_of_no_flag (target : UInt8) (wheel : WheelStatus × UInt8) :
    WheelCommand.apply ∅ target wheel = wheel := by
  simp (disch := decide) only [WheelCommand.apply, empty_meets, empty_has, Bool.false_eq_true,
    if_false]

/-- A dome that is asked for nothing stands still. -/
theorem dome_of_no_flag {c : Command} (h : c.dome = ∅) : c.domeStatus = ∅ := by
  rw [domeStatus, h]
  rfl

/-- **Hardware at rest stays as it is**: what the first status fills in changes nothing. -/
theorem apply_seed (h : s.AtRest) : (({} : Command).seed s).apply s = s := by
  have hdome : (({} : Command).seed s).domeStatus = s.dome := (dome_of_no_flag rfl).trans h.dome.symm
  rw [seed_default] at hdome ⊢
  simp (disch := decide) only [apply, hdome, focus_of_atRest h, mirror_of_atRest h,
    instrumentShutter_of_seed, wheel_of_no_flag, empty_has, Bool.false_eq_true, if_false]

/-! ## What becomes of such a command -/

/-- It arrives as it is, less the bookkeeping. -/
theorem carried_seed (hrange : s.InRange) :
    (({} : Command).seed s).carried = (({} : Command).seed s).wire :=
  carried_eq_wire (seed_wellFormed wellFormed_default hrange)

theorem apply_carried_seed (hrange : s.InRange) (h : s.AtRest) :
    (({} : Command).seed s).carried.apply s = s := by
  rw [carried_seed hrange]
  exact apply_seed h

theorem eraseWhen_empty {t : FlagTable} (m : Flags t) (on : Bool) : eraseWhen ∅ m on = ∅ := by
  cases on with
  | false => rfl
  | true => exact empty_erase m

/-- No shutter or dropout is asked for, so no status takes a request back. -/
theorem confirm_seed (s reported : Status) :
    (({} : Command).seed s).confirm reported = ({} : Command).seed s := by
  have hshutter : (({} : Command).seed s).shutter = ∅ := rfl
  have hdropout : (({} : Command).seed s).dropout = ∅ := rfl
  rw [confirm, hshutter, hdropout, eraseWhen_empty, eraseWhen_empty, eraseWhen_empty,
    eraseWhen_empty]
  rfl

theorem oneShots_seed_default (s : Status) : (({} : Command).seed s).oneShots = ∅ :=
  oneShots_seed {} s

end Command

end DomeLink
