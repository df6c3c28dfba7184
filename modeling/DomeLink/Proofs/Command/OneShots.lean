import DomeLink.Command.Reconcile
import DomeLink.Proofs.Command.Change

/-!
# One-shot bits of a command

The seven one-shot bits stand in four flag words of the command. Here each of them is followed by
itself, through everything that can happen to a command:

* `has_oneShots_changeAll`: changes set the bits that they ask for, and clear none.
* `has_requested_changeAll`: they note the same bits as requested.
* `has_oneShots_clearOneShots`: clearing clears the given bits, and no other.
* `oneShots_seed`, `oneShots_confirm`: a status touches none.
-/

namespace DomeLink

/-- The seven one-shot bits. -/
def OneShot.all : List OneShot :=
  [focusReset, apertureInit, apertureReset, filterInit, filterReset, acqMirrorReset, acqDeviceReset]

theorem OneShot.isSingle_of_mem {bit : OneShot} (h : bit ∈ OneShot.all) : bit.IsSingle := by
  simp only [OneShot.all, List.mem_cons, List.not_mem_nil, or_false] at h
  rcases h with rfl | rfl | rfl | rfl | rfl | rfl | rfl
  · exact ⟨0, by decide⟩
  · exact ⟨1, by decide⟩
  · exact ⟨2, by decide⟩
  · exact ⟨3, by decide⟩
  · exact ⟨4, by decide⟩
  · exact ⟨5, by decide⟩
  · exact ⟨6, by decide⟩

/-- The one-shot bit that a change asks for, if any. -/
def Change.oneShot : Change → OneShot
  | .focusReset => OneShot.focusReset
  | .acqMirror .reset => OneShot.acqMirrorReset
  | .wheel .aperture .init => OneShot.apertureInit
  | .wheel .aperture .reset => OneShot.apertureReset
  | .wheel .filter .init => OneShot.filterInit
  | .wheel .filter .reset => OneShot.filterReset
  | .acqDeviceReset => OneShot.acqDeviceReset
  | _ => ∅

/-- One of the changes asks for the bit. -/
def Change.anyAsks (ms : List Change) (bit : OneShot) : Bool := ms.any fun m => m.oneShot.has bit

namespace Command

open Flags

/-! ## The bits by themselves -/

section

variable (c : Command)

@[simp] theorem has_focusReset :
    c.oneShots.has OneShot.focusReset = c.focus.has FocusCommand.reset := by
  simp (disch := decide) [oneShots]

@[simp] theorem has_apertureInit :
    c.oneShots.has OneShot.apertureInit = c.aperture.has WheelCommand.init := by
  simp (disch := decide) [oneShots]

@[simp] theorem has_apertureReset :
    c.oneShots.has OneShot.apertureReset = c.aperture.has WheelCommand.reset := by
  simp (disch := decide) [oneShots]

@[simp] theorem has_filterInit :
    c.oneShots.has OneShot.filterInit = c.filter.has WheelCommand.init := by
  simp (disch := decide) [oneShots]

@[simp] theorem has_filterReset :
    c.oneShots.has OneShot.filterReset = c.filter.has WheelCommand.reset := by
  simp (disch := decide) [oneShots]

@[simp] theorem has_acqMirrorReset :
    c.oneShots.has OneShot.acqMirrorReset = c.acqMirror.has AcqMirrorCommand.reset := by
  simp (disch := decide) [oneShots]

@[simp] theorem has_acqDeviceReset :
    c.oneShots.has OneShot.acqDeviceReset = c.misc.has MiscCommand.acqDeviceReset := by
  simp (disch := decide) [oneShots]

end

/-- A law of the one-shot bits, proved bit by bit. -/
theorem forall_oneShot {P : OneShot → Prop} (hfocus : P OneShot.focusReset)
    (hainit : P OneShot.apertureInit) (hareset : P OneShot.apertureReset)
    (hfinit : P OneShot.filterInit) (hfreset : P OneShot.filterReset)
    (hmirror : P OneShot.acqMirrorReset) (hmisc : P OneShot.acqDeviceReset) :
    ∀ bit ∈ OneShot.all, P bit := by
  simp only [OneShot.all, List.forall_mem_cons]
  exact ⟨hfocus, hainit, hareset, hfinit, hfreset, hmirror, hmisc, nofun⟩

/-! ## Clearing -/

/-- **Clearing clears the given bits**, and no other. -/
theorem has_oneShots_clearOneShots (c : Command) (bits : OneShot) :
    ∀ bit ∈ OneShot.all,
      (c.clearOneShots bits).oneShots.has bit = (c.oneShots.has bit && !bits.has bit) := by
  apply forall_oneShot
  all_goals simp (disch := decide) [clearOneShots]

/-! ## Reported status -/

theorem has_mirrorFor_reset (current : AcqMirrorCommand) (status : AcqMirrorStatus) :
    (mirrorFor current status).has AcqMirrorCommand.reset =
      current.has AcqMirrorCommand.reset := by
  unfold mirrorFor
  split
  · simp (disch := decide)
  · split <;> simp (disch := decide)

theorem oneShots_seed (c : Command) (s : Status) : (c.seed s).oneShots = c.oneShots := by
  have hmirror : (c.seed s).acqMirror.has AcqMirrorCommand.reset =
      c.acqMirror.has AcqMirrorCommand.reset := by
    simp only [seed]
    split
    · exact has_mirrorFor_reset c.acqMirror s.acqMirror
    · rfl
  have hmisc : (c.seed s).misc.has MiscCommand.acqDeviceReset =
      c.misc.has MiscCommand.acqDeviceReset := by
    simp only [seed]
    split
    · exact has_assign_of_disjoint _ rfl
    · rfl
  rw [oneShots, hmirror, hmisc]
  rfl

theorem oneShots_confirm (c : Command) (s : Status) : (c.confirm s).oneShots = c.oneShots := rfl

/-! ## Changes -/

/-- **A change sets the bit that it asks for**, and clears none. -/
theorem has_oneShots_make (c : Command) (m : Change) :
    ∀ bit ∈ OneShot.all,
      (c.make m).oneShots.has bit = (c.oneShots.has bit || m.oneShot.has bit) := by
  apply forall_oneShot
  all_goals
    cases m with
    | focusMove motion =>
      cases motion <;> simp (disch := decide) [make, setFocusMove, Change.oneShot]
    | acqMirror action =>
      cases action <;> simp (disch := decide) [make, setAcqMirror, control, request, Change.oneShot]
    | wheel wheel action =>
      cases wheel <;> cases action <;>
        simp (disch := decide) [make, setWheel, control, request, Change.oneShot]
    | domeTarget | domeMove | shutter | dropout =>
      simp (disch := decide) [make, setDomeTarget, setDomeMove, setShutter, setDropout, control,
        Change.oneShot]
    | focusGoto => simp (disch := decide) [make, setFocusTarget, control, Change.oneShot]
    | watchdog | focusReset | instrumentShutter | eht | domeFlop | acqDeviceReset =>
      simp (disch := decide) [make, control, request, Change.oneShot]

/-- A change notes the bit that it asks for as requested. -/
theorem requested_make (c : Command) (m : Change) :
    (c.make m).requested = c.requested.insert m.oneShot := by
  have keep : c.requested = c.requested.insert ∅ := (insert_empty c.requested).symm
  cases m with
  | acqMirror action => cases action <;> first | rfl | exact keep
  | wheel wheel action => cases wheel <;> cases action <;> first | rfl | exact keep
  | focusReset | acqDeviceReset => rfl
  | _ => exact keep

/-- **A list of changes sets the bits that it asks for**, and clears none. -/
theorem has_oneShots_changeAll {c c' : Command} {ms : List Change} (h : c.changeAll ms = .ok c') :
    ∀ bit ∈ OneShot.all,
      c'.oneShots.has bit = (c.oneShots.has bit || Change.anyAsks ms bit) := by
  intro bit hbit
  induction ms generalizing c with
  | nil =>
    rw [← changeAll_nil_eq_ok.1 h]
    exact (Bool.or_false _).symm
  | cons m ms ih =>
    obtain ⟨_, hrest⟩ := changeAll_cons_eq_ok.1 h
    rw [ih hrest, has_oneShots_make c m bit hbit, Bool.or_assoc]
    rfl

/-- A list of changes notes the bits that it asks for as requested. -/
theorem has_requested_changeAll {c c' : Command} {ms : List Change} (h : c.changeAll ms = .ok c') :
    ∀ bit ∈ OneShot.all,
      c'.requested.has bit = (c.requested.has bit || Change.anyAsks ms bit) := by
  intro bit hbit
  induction ms generalizing c with
  | nil =>
    rw [← changeAll_nil_eq_ok.1 h]
    exact (Bool.or_false _).symm
  | cons m ms ih =>
    obtain ⟨_, hrest⟩ := changeAll_cons_eq_ok.1 h
    rw [ih hrest, requested_make, (OneShot.isSingle_of_mem hbit).has_insert, Bool.or_assoc]
    rfl

end Command

end DomeLink
