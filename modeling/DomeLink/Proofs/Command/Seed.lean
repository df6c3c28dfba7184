import DomeLink.Command.Reconcile
import DomeLink.Proofs.Command.Change
import Mathlib.Data.List.Induction

/-!
# What the first status fills in

A client may change the command before anything is known of the hardware. The first status then
fills in nine values, each one only where no client has set it. A `SeededField` is one of the nine:
the changes that set it, its value in the command and in the status, and the bit of `controlled`
that remembers that a client has set it.

* `SeededField.value_seed`: after any changes and the first status, such a value is the one that the
  last of the changes set, and that of the status where none did.
* `seeded_made`: the same for all nine by name, and the rest of the command is as the changes left
  it, bit by bit where it shares a flag word with one of the nine (`Seeded`).
-/

namespace DomeLink

/-- Which of its two places the acquisition mirror is asked to take, or is at. -/
structure MirrorMode where
  view : Bool
  measure : Bool
  deriving DecidableEq, Repr

namespace MirrorMode

/-- The places that a mirror request asks for. -/
def requested (x : AcqMirrorCommand) : MirrorMode :=
  ⟨x.has AcqMirrorCommand.view, x.has AcqMirrorCommand.measure⟩

/-- The place that the mirror is reported at: viewing wins over measuring. -/
def reported (x : AcqMirrorStatus) : MirrorMode :=
  ⟨x.has AcqMirrorStatus.view, !x.has AcqMirrorStatus.view && x.has AcqMirrorStatus.measure⟩

end MirrorMode

namespace Change

/-- The value that the last of the changes sets, if one of them sets it. -/
def lastSet {α : Type} (sets : Change → Option α) (ms : List Change) : Option α :=
  (ms.filterMap sets).getLast?

theorem lastSet_snoc {α : Type} (sets : Change → Option α) (ms : List Change) (m : Change) :
    lastSet sets (ms ++ [m]) = (sets m).or (lastSet sets ms) := by
  unfold lastSet
  rw [List.filterMap_append, List.getLast?_append]
  cases h : sets m with
  | none => rw [List.filterMap_cons_none h]; rfl
  | some a => rw [List.filterMap_cons_some h]; rfl

/-! ## The values that changes set -/

@[simp] def domeTarget? : Change → Option UInt16
  | .domeTarget azimuth _ => some azimuth
  | _ => none

@[simp] def focusTarget? : Change → Option Int16
  | .focusGoto position => some position
  | _ => none

@[simp] def slot? (wheel : Wheel) : Change → Option UInt8
  | .wheel w (.goto slot) => if w = wheel then some slot else none
  | _ => none

@[simp] def eht? : Change → Option EhtMode
  | .eht mode => some mode
  | _ => none

@[simp] def mirrorMode? : Change → Option MirrorMode
  | .acqMirror .view => some ⟨true, false⟩
  | .acqMirror .measure => some ⟨false, true⟩
  | _ => none

@[simp] def instrumentShutter? : Change → Option Bool
  | .instrumentShutter isOpen => some isOpen
  | _ => none

@[simp] def domeFlopMin? : Change → Option UInt16
  | .domeFlop low _ => some low
  | _ => none

@[simp] def domeFlopMax? : Change → Option UInt16
  | .domeFlop _ high => some high
  | _ => none

/-- The fields that a change takes control of. -/
@[simp] def controls : Change → Controlled
  | .domeTarget _ _ => Controlled.domeTarget
  | .focusGoto _ => Controlled.focusTarget
  | .wheel w action =>
    match w, action with
    | .aperture, .goto _ => Controlled.apertureSlot
    | .filter, .goto _ => Controlled.filterSlot
    | _, _ => ∅
  | .eht _ => Controlled.eht
  | .acqMirror action =>
    match action with
    | .view | .measure => Controlled.acqMirror
    | .reset => ∅
  | .instrumentShutter _ => Controlled.instrumentShutter
  | .domeFlop _ _ => Controlled.domeFlop
  | _ => ∅

end Change

namespace Command

open Change Flags

/-- The command that the changes make of a new one. -/
def made (ms : List Change) : Command := ms.foldl make {}

theorem changeAll_eq_ok_iff {c c' : Command} {ms : List Change} :
    c.changeAll ms = .ok c' ↔ (∀ m ∈ ms, m.check = .ok ()) ∧ ms.foldl make c = c' := by
  induction ms generalizing c with
  | nil => exact changeAll_nil_eq_ok.trans ⟨fun h => ⟨nofun, h⟩, fun h => h.2⟩
  | cons m ms ih => rw [changeAll_cons_eq_ok, ih, List.forall_mem_cons, and_assoc, List.foldl_cons]

/-- A change notes what it takes control of. -/
theorem controlled_make (c : Command) (m : Change) :
    (c.make m).controlled = c.controlled.insert m.controls := by
  have keep : c.controlled = c.controlled.insert ∅ := (insert_empty c.controlled).symm
  cases m with
  | acqMirror action => cases action <;> first | rfl | exact keep
  | wheel wheel action => cases wheel <;> cases action <;> first | rfl | exact keep
  | domeTarget | focusGoto | eht | instrumentShutter | domeFlop => rfl
  | _ => exact keep

theorem isFree_make (c : Command) (m : Change) (bit : Controlled) :
    (c.make m).isFree bit = (c.isFree bit && !m.controls.meets bit) := by
  rw [isFree, controlled_make, meets_insert, Bool.not_or, isFree]

/-- **What a change takes control of** is what it sets. -/
structure Marks (m : Change) : Prop where
  domeTarget : m.controls.meets Controlled.domeTarget = m.domeTarget?.isSome
  focusTarget : m.controls.meets Controlled.focusTarget = m.focusTarget?.isSome
  apertureSlot : m.controls.meets Controlled.apertureSlot = (m.slot? .aperture).isSome
  filterSlot : m.controls.meets Controlled.filterSlot = (m.slot? .filter).isSome
  eht : m.controls.meets Controlled.eht = m.eht?.isSome
  acqMirror : m.controls.meets Controlled.acqMirror = m.mirrorMode?.isSome
  instrumentShutter :
    m.controls.meets Controlled.instrumentShutter = m.instrumentShutter?.isSome
  domeFlopMin : m.controls.meets Controlled.domeFlop = m.domeFlopMin?.isSome
  domeFlopMax : m.controls.meets Controlled.domeFlop = m.domeFlopMax?.isSome

/-- **What a change sets**, and what it leaves as it was. -/
structure Sets (c : Command) (m : Change) : Prop where
  domeTarget : (c.make m).domeTarget = m.domeTarget?.getD c.domeTarget
  focusTarget : (c.make m).focusTarget = m.focusTarget?.getD c.focusTarget
  apertureSlot : (c.make m).apertureSlot = (m.slot? .aperture).getD c.apertureSlot
  filterSlot : (c.make m).filterSlot = (m.slot? .filter).getD c.filterSlot
  eht : (c.make m).eht = m.eht?.getD c.eht
  acqMirror : MirrorMode.requested (c.make m).acqMirror =
    m.mirrorMode?.getD (MirrorMode.requested c.acqMirror)
  instrumentShutter : (c.make m).misc.has MiscCommand.instrumentShutterOpen =
    m.instrumentShutter?.getD (c.misc.has MiscCommand.instrumentShutterOpen)
  domeFlopMin : (c.make m).domeFlopMin = m.domeFlopMin?.getD c.domeFlopMin
  domeFlopMax : (c.make m).domeFlopMax = m.domeFlopMax?.getD c.domeFlopMax

theorem marks (m : Change) : Marks m := by
  cases m with
  | wheel wheel action => cases wheel <;> cases action <;> constructor <;> simp <;> decide
  | acqMirror action => cases action <;> constructor <;> simp <;> decide
  | _ => constructor <;> simp <;> decide

theorem sets (c : Command) (m : Change) : Sets c m := by
  cases m with
  | wheel wheel action => cases wheel <;> cases action <;> constructor <;> rfl
  | acqMirror action =>
    cases action with
    | reset =>
      exact ⟨rfl, rfl, rfl, rfl, rfl, by simp (disch := decide) [make, setAcqMirror, request,
        MirrorMode.requested], rfl, rfl, rfl⟩
    | view | measure =>
      exact ⟨rfl, rfl, rfl, rfl, rfl, by simp (disch := decide) [make, setAcqMirror, control,
        MirrorMode.requested], rfl, rfl, rfl⟩
  | watchdog | instrumentShutter | acqDeviceReset =>
    exact ⟨rfl, rfl, rfl, rfl, rfl, rfl, by simp (disch := decide) [make, control, request],
      rfl, rfl⟩
  | _ => constructor <;> rfl

/-! ## One field -/

/-- **A field that the first status fills in**, where no client has set it. -/
structure SeededField (α : Type) where
  /-- The mark that a client has set the field. -/
  bit : Controlled
  /-- The value that a change sets the field to. -/
  sets : Change → Option α
  value : Command → α
  observed : Status → α
  controls (m : Change) : m.controls.meets bit = (sets m).isSome
  make (c : Command) (m : Change) : value (c.make m) = (sets m).getD (value c)
  seed (c : Command) (s : Status) :
    value (c.seed s) = if c.isFree bit then observed s else value c

namespace SeededField

/-- The field is free until a change sets it, and holds the value that was set last. -/
theorem foldl_make {α : Type} (f : SeededField α) (ms : List Change) (c : Command)
    (hc : c.isFree f.bit = true) :
    (ms.foldl Command.make c).isFree f.bit = (lastSet f.sets ms).isNone ∧
      f.value (ms.foldl Command.make c) = (lastSet f.sets ms).getD (f.value c) := by
  induction ms using List.reverseRecOn with
  | nil => exact ⟨hc, rfl⟩
  | append_singleton ms m ih =>
    rw [List.foldl_append, List.foldl_cons, List.foldl_nil, isFree_make, f.controls, f.make,
      ih.1, ih.2, lastSet_snoc]
    cases f.sets m with
    | none => exact ⟨Bool.and_true _, rfl⟩
    | some a => exact ⟨Bool.and_false _, rfl⟩

/-- **The value that was set last, or else the reported one.** -/
theorem value_seed {α : Type} (f : SeededField α) (ms : List Change) (s : Status) :
    f.value ((made ms).seed s) = (lastSet f.sets ms).getD (f.observed s) := by
  obtain ⟨hfree, hvalue⟩ := f.foldl_make ms {} (by rw [isFree, empty_meets]; rfl)
  rw [f.seed, made, hfree, hvalue]
  cases lastSet f.sets ms with
  | none => rfl
  | some a => rfl

/-! ## The nine of them -/

def domeTarget : SeededField UInt16 where
  bit := Controlled.domeTarget
  sets := domeTarget?
  value := (·.domeTarget)
  observed := (·.domeAzimuth)
  controls m := (marks m).domeTarget
  make c m := (Command.sets c m).domeTarget
  seed _ _ := rfl

def focusTarget : SeededField Int16 where
  bit := Controlled.focusTarget
  sets := focusTarget?
  value := (·.focusTarget)
  observed := (·.focusPosition)
  controls m := (marks m).focusTarget
  make c m := (Command.sets c m).focusTarget
  seed _ _ := rfl

def apertureSlot : SeededField UInt8 where
  bit := Controlled.apertureSlot
  sets := slot? .aperture
  value := (·.apertureSlot)
  observed := (·.apertureSlot)
  controls m := (marks m).apertureSlot
  make c m := (Command.sets c m).apertureSlot
  seed _ _ := rfl

def filterSlot : SeededField UInt8 where
  bit := Controlled.filterSlot
  sets := slot? .filter
  value := (·.filterSlot)
  observed := (·.filterSlot)
  controls m := (marks m).filterSlot
  make c m := (Command.sets c m).filterSlot
  seed _ _ := rfl

def eht : SeededField EhtMode where
  bit := Controlled.eht
  sets := eht?
  value := (·.eht)
  observed := (·.eht)
  controls m := (marks m).eht
  make c m := (Command.sets c m).eht
  seed _ _ := rfl

theorem requested_mirrorFor (current : AcqMirrorCommand) (status : AcqMirrorStatus) :
    MirrorMode.requested (mirrorFor current status) = MirrorMode.reported status := by
  unfold mirrorFor MirrorMode.reported
  split
  · rename_i hview
    simp (disch := decide) [MirrorMode.requested, hview]
  · rename_i hview
    split
    · rename_i hmeasure
      simp (disch := decide) [MirrorMode.requested, hview, hmeasure]
    · rename_i hmeasure
      simp (disch := decide) [MirrorMode.requested, hview, hmeasure]

def acqMirror : SeededField MirrorMode where
  bit := Controlled.acqMirror
  sets := mirrorMode?
  value c := MirrorMode.requested c.acqMirror
  observed s := MirrorMode.reported s.acqMirror
  controls m := (marks m).acqMirror
  make c m := (Command.sets c m).acqMirror
  seed c s := by rw [Command.seed, apply_ite MirrorMode.requested, requested_mirrorFor]

def instrumentShutter : SeededField Bool where
  bit := Controlled.instrumentShutter
  sets := instrumentShutter?
  value c := c.misc.has MiscCommand.instrumentShutterOpen
  observed s := s.instrumentShutter.has InstrumentShutterStatus.opened
  controls m := (marks m).instrumentShutter
  make c m := (Command.sets c m).instrumentShutter
  seed c s := by
    rw [Command.seed, apply_ite fun x : MiscCommand => x.has MiscCommand.instrumentShutterOpen,
      has_assign_self _ (by decide)]

def domeFlopMin : SeededField UInt16 where
  bit := Controlled.domeFlop
  sets := domeFlopMin?
  value := (·.domeFlopMin)
  observed := (·.domeFlopMin)
  controls m := (marks m).domeFlopMin
  make c m := (Command.sets c m).domeFlopMin
  seed _ _ := rfl

def domeFlopMax : SeededField UInt16 where
  bit := Controlled.domeFlop
  sets := domeFlopMax?
  value := (·.domeFlopMax)
  observed := (·.domeFlopMax)
  controls m := (marks m).domeFlopMax
  make c m := (Command.sets c m).domeFlopMax
  seed _ _ := rfl

end SeededField

/-! ## The whole command -/

/-- **The command that asks for nothing but what was asked for**: every value that can be told from
the status is the one that was set last, or the reported one where none was set; everything else is
as the changes left it. -/
structure Seeded (ms : List Change) (s : Status) (c : Command) : Prop where
  domeTarget : c.domeTarget = (lastSet domeTarget? ms).getD s.domeAzimuth
  focusTarget : c.focusTarget = (lastSet focusTarget? ms).getD s.focusPosition
  apertureSlot : c.apertureSlot = (lastSet (slot? .aperture) ms).getD s.apertureSlot
  filterSlot : c.filterSlot = (lastSet (slot? .filter) ms).getD s.filterSlot
  eht : c.eht = (lastSet eht? ms).getD s.eht
  mirrorMode : MirrorMode.requested c.acqMirror =
    (lastSet mirrorMode? ms).getD (MirrorMode.reported s.acqMirror)
  instrumentShutter : c.misc.has MiscCommand.instrumentShutterOpen =
    (lastSet instrumentShutter? ms).getD (s.instrumentShutter.has InstrumentShutterStatus.opened)
  domeFlopMin : c.domeFlopMin = (lastSet domeFlopMin? ms).getD s.domeFlopMin
  domeFlopMax : c.domeFlopMax = (lastSet domeFlopMax? ms).getD s.domeFlopMax
  dome : c.dome = (made ms).dome
  shutter : c.shutter = (made ms).shutter
  dropout : c.dropout = (made ms).dropout
  focus : c.focus = (made ms).focus
  aperture : c.aperture = (made ms).aperture
  filter : c.filter = (made ms).filter
  /-- The bits of the mirror digit but the two places. -/
  acqMirror : c.acqMirror.erase (AcqMirrorCommand.view.insert AcqMirrorCommand.measure) =
    (made ms).acqMirror.erase (AcqMirrorCommand.view.insert AcqMirrorCommand.measure)
  /-- The bits of the shared digit but that of the instrument shutter. -/
  misc : c.misc.erase MiscCommand.instrumentShutterOpen =
    (made ms).misc.erase MiscCommand.instrumentShutterOpen

theorem erase_mirrorFor (current : AcqMirrorCommand) (status : AcqMirrorStatus) :
    (mirrorFor current status).erase (AcqMirrorCommand.view.insert AcqMirrorCommand.measure) =
      current.erase (AcqMirrorCommand.view.insert AcqMirrorCommand.measure) := by
  unfold mirrorFor
  split
  · rw [erase_insert_of_has (by decide), erase_erase_of_has (has_self _)]
  · split
    · rw [erase_insert_of_has (by decide), erase_erase_of_has (has_self _)]
    · exact erase_erase_of_has (has_self _) current

/-- **After any changes and the first status**, the command holds what was set last and else what
was reported. -/
theorem seeded_made (ms : List Change) (s : Status) : Seeded ms s ((made ms).seed s) where
  domeTarget := SeededField.domeTarget.value_seed ms s
  focusTarget := SeededField.focusTarget.value_seed ms s
  apertureSlot := SeededField.apertureSlot.value_seed ms s
  filterSlot := SeededField.filterSlot.value_seed ms s
  eht := SeededField.eht.value_seed ms s
  mirrorMode := SeededField.acqMirror.value_seed ms s
  instrumentShutter := SeededField.instrumentShutter.value_seed ms s
  domeFlopMin := SeededField.domeFlopMin.value_seed ms s
  domeFlopMax := SeededField.domeFlopMax.value_seed ms s
  dome := rfl
  shutter := rfl
  dropout := rfl
  focus := rfl
  aperture := rfl
  filter := rfl
  acqMirror := by
    simp only [seed]
    split
    · exact erase_mirrorFor _ _
    · rfl
  misc := by
    simp only [seed]
    split
    · exact erase_assign_of_has (has_self _) _ _
    · rfl

end Command

end DomeLink
