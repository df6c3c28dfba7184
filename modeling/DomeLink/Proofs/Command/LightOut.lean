import DomeLink.Proofs.Command.RoundTrip
import DomeLink.Proofs.Command.Seed
import DomeLink.Proofs.Config

/-!
# Shutting the light out

Four effects together keep the light out of the instrument: its shutter is closed, both wheels go to
their safe slots, and the mirror is in the beam. One update asks for all of them, and takes control
of the four fields, so that no status which arrives later puts back what the hardware then reports.

* `changeAll_shutLightOut`: with the safe slots of an accepted configuration the update is made.
* `holdsLightOut_lightOut`, `withoutLight_lightOut`: it asks for the four effects, and leaves the
  rest of the command alone.
* `HoldsLightOut.seed`, `HoldsLightOut.confirm`, `HoldsLightOut.clearOneShots`: what else can happen
  to a command keeps all four.
-/

namespace DomeLink.Command

open Flags

/-- **The command asks for everything that shuts the light out.** -/
structure ShutsLightOut (slots : SafeSlots) (c : Command) : Prop where
  shutter : c.misc.has MiscCommand.instrumentShutterOpen = false
  aperture : c.aperture.has WheelCommand.go = true
  apertureSlot : c.apertureSlot = slots.aperture
  filter : c.filter.has WheelCommand.go = true
  filterSlot : c.filterSlot = slots.filter
  view : c.acqMirror.has AcqMirrorCommand.view = true
  measure : c.acqMirror.has AcqMirrorCommand.measure = false

/-- What shuts the light out was asked for by a client. -/
structure HoldsLightOut (slots : SafeSlots) (c : Command) : Prop extends ShutsLightOut slots c where
  shutterSet : c.isFree Controlled.instrumentShutter = false
  apertureSet : c.isFree Controlled.apertureSlot = false
  filterSet : c.isFree Controlled.filterSlot = false
  mirrorSet : c.isFree Controlled.acqMirror = false

/-- What a frame carries of the command, less what shuts the light out. -/
def withoutLight (c : Command) : Command :=
  { c.wire with
    misc := c.misc.erase MiscCommand.instrumentShutterOpen
    aperture := c.aperture.erase WheelCommand.go
    apertureSlot := 0
    filter := c.filter.erase WheelCommand.go
    filterSlot := 0
    acqMirror := c.acqMirror.erase (AcqMirrorCommand.view.insert AcqMirrorCommand.measure) }

variable {slots : SafeSlots} {c : Command}

/-- A frame carries what shuts the light out. -/
theorem ShutsLightOut.wire (h : c.ShutsLightOut slots) : c.wire.ShutsLightOut slots := { h with }

/-! ## The update that shuts the light out -/

/-- A field stays free while no change takes control of it. -/
theorem isFree_foldl_make (c : Command) (ms : List Change) (bit : Controlled) :
    (ms.foldl make c).isFree bit = (c.isFree bit && !ms.any fun m => m.controls.meets bit) := by
  induction ms generalizing c with
  | nil => exact (Bool.and_true _).symm
  | cons m ms ih =>
    rw [List.foldl_cons, ih, isFree_make, List.any_cons, Bool.not_or, Bool.and_assoc]

theorem isFree_of_mem {ms : List Change} {m : Change} {bit : Controlled} (hm : m ∈ ms)
    (hbit : m.controls.meets bit = true) (c : Command) : (ms.foldl make c).isFree bit = false := by
  rw [isFree_foldl_make, List.any_eq_true.2 ⟨m, hm, hbit⟩, Bool.not_true, Bool.and_false]

/-- The command after the update that shuts the light out. -/
def lightOut (slots : SafeSlots) (c : Command) : Command :=
  (Change.shutLightOut slots.aperture slots.filter).foldl make c

/-- Every change of the update passes its check if the safe slots are slots. -/
theorem check_of_mem_shutLightOut (ha : slots.aperture.toNat ≤ Quantity.wheelSlot.limit)
    (hf : slots.filter.toNat ≤ Quantity.wheelSlot.limit) {m : Change}
    (hm : m ∈ Change.shutLightOut slots.aperture slots.filter) : m.check = .ok () := by
  have hslot {slot : UInt8} (hle : slot.toNat ≤ Quantity.wheelSlot.limit) (wheel : Wheel) :
      (Change.wheel wheel (.goto slot)).check = .ok () :=
    Quantity.check_eq_ok.2 ⟨Int.natCast_nonneg _, Int.ofNat_le.2 hle⟩
  simp only [Change.shutLightOut, List.mem_cons, List.not_mem_nil, or_false] at hm
  rcases hm with rfl | rfl | rfl | rfl
  · rfl
  · exact hslot ha .aperture
  · exact hslot hf .filter
  · rfl

/-- **The update that shuts the light out is made** where the configuration is accepted. -/
theorem changeAll_shutLightOut {config : Config} (h : config.check = .ok ()) (c : Command) :
    c.changeAll (Change.shutLightOut config.safeSlots.aperture config.safeSlots.filter) =
      .ok (c.lightOut config.safeSlots) := by
  have hsound := Config.check_eq_ok_iff.1 h
  refine changeAll_eq_ok_iff.2 ⟨fun m hm => ?_, rfl⟩
  exact check_of_mem_shutLightOut hsound.aperture hsound.filter hm

/-- **It asks for all that shuts the light out**, and takes control of it. -/
theorem holdsLightOut_lightOut (slots : SafeSlots) (c : Command) :
    (c.lightOut slots).HoldsLightOut slots where
  shutter := has_assign_self false (by decide)
  aperture := has_insert_self _ _
  apertureSlot := rfl
  filter := has_insert_self _ _
  filterSlot := rfl
  view := has_insert_self _ _
  measure := (has_insert_of_disjoint (by decide)).trans (has_erase_of_meets (by decide))
  shutterSet := isFree_of_mem (.head _) (marks _).instrumentShutter c
  apertureSet := isFree_of_mem (.tail _ (.head _)) (marks _).apertureSlot c
  filterSet := isFree_of_mem (.tail _ (.tail _ (.head _))) (marks _).filterSlot c
  mirrorSet := isFree_of_mem (.tail _ (.tail _ (.tail _ (.head _)))) (marks _).acqMirror c

/-- It leaves the rest of the command alone. -/
theorem withoutLight_lightOut (slots : SafeSlots) (c : Command) :
    (c.lightOut slots).withoutLight = c.withoutLight := by
  simp (disch := decide) only [withoutLight, lightOut, Change.shutLightOut, List.foldl_cons,
    List.foldl_nil, make, setWheel, setAcqMirror, control, wire, erase_insert_of_has,
    erase_erase_of_has, erase_assign_of_has]

/-! ## What else can happen to the command -/

/-- A status fills in nothing that shuts the light out. -/
theorem HoldsLightOut.seed (h : c.HoldsLightOut slots) (s : Status) :
    (c.seed s).HoldsLightOut slots := by
  have hmisc : (c.seed s).misc = c.misc := if_neg (Bool.eq_false_iff.1 h.shutterSet)
  have haperture : (c.seed s).apertureSlot = c.apertureSlot :=
    if_neg (Bool.eq_false_iff.1 h.apertureSet)
  have hfilter : (c.seed s).filterSlot = c.filterSlot := if_neg (Bool.eq_false_iff.1 h.filterSet)
  have hmirror : (c.seed s).acqMirror = c.acqMirror := if_neg (Bool.eq_false_iff.1 h.mirrorSet)
  exact {
    h with
    shutter := hmisc ▸ h.shutter
    apertureSlot := haperture.trans h.apertureSlot
    filterSlot := hfilter.trans h.filterSlot
    view := hmirror ▸ h.view
    measure := hmirror ▸ h.measure }

theorem HoldsLightOut.confirm (h : c.HoldsLightOut slots) (s : Status) :
    (c.confirm s).HoldsLightOut slots := { h with }

theorem HoldsLightOut.forgetRequested (h : c.HoldsLightOut slots) :
    c.forgetRequested.HoldsLightOut slots := { h with }

/-- The one-shot bits of a wheel leave its `GO`. -/
theorem has_erase_wheel (x : WheelCommand) (init reset : Bool) :
    (eraseWhen (eraseWhen x WheelCommand.init init) WheelCommand.reset reset).has
      WheelCommand.go = x.has WheelCommand.go := by
  rw [has_eraseWhen_of_disjoint reset (by decide), has_eraseWhen_of_disjoint init (by decide)]

/-- No one-shot action is among what shuts the light out. -/
theorem HoldsLightOut.clearOneShots (h : c.HoldsLightOut slots) (bits : OneShot) :
    (c.clearOneShots bits).HoldsLightOut slots :=
  { h with
    shutter := (has_eraseWhen_of_disjoint _ (by decide)).trans h.shutter
    aperture := (has_erase_wheel _ _ _).trans h.aperture
    filter := (has_erase_wheel _ _ _).trans h.filter
    view := (has_eraseWhen_of_disjoint _ (by decide)).trans h.view
    measure := (has_eraseWhen_of_disjoint _ (by decide)).trans h.measure }

end DomeLink.Command
