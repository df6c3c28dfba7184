import DomeLink.Proofs.Command.LightOut
import DomeLink.Proofs.Session.FirstCommand

/-!
# The light stays shut out

A client shuts the light out with one update, which may come at any time: before the initial status,
at rest, or while a reply is outstanding. The update is always made. From then on every command
frame asks for all that it takes (`Command.ShutsLightOut`), until another update changes the
command: no status puts back what the hardware reports, and no exchange that fails drops a part.

* `Transition.holdsLightOut`: an input that makes no change keeps all that shuts the light out.
* `tellsLightOut_of_mem`: so do all inputs of a run, and each command frame carries it.
* `light_shut_out`: what the update does, at once and later.
-/

namespace DomeLink.Session

variable {s : Session} {i : SessionInput} {r : Step} {slots : SafeSlots}

/-! ## One step -/

/-- No reply gives up what a client has asked for. -/
theorem durable_holdsLightOut (slots : SafeSlots) : Durable (Command.HoldsLightOut slots) where
  seed := fun _ _ status _ h => h.seed status
  confirm := fun _ status h => h.confirm status
  clearOneShots := fun _ bits h => h.clearOneShots bits
  forgetRequested := fun _ h => h.forgetRequested

/-- **An input that makes no change keeps all that shuts the light out.** -/
theorem Transition.holdsLightOut (htr : Transition s i r) (h : s.command.HoldsLightOut slots)
    (hi : i.changes = []) : r.1.command.HoldsLightOut slots := by
  refine (durable_holdsLightOut slots).transition htr ?_ h
  rintro ms c rfl hms
  rw [changes_of_ok hms, hi]
  exact h

/-! ## Frames -/

/-- The controller reads in the frame all that shuts the light out. -/
def TellsLightOut (slots : SafeSlots) (frame : Bytes) : Prop :=
  ∃ told, Command.decode frame = .ok told ∧ told.ShutsLightOut slots

theorem Transition.tellsLightOut (htr : Transition s i r) (hs : s.command.WellFormed)
    (h : r.1.command.HoldsLightOut slots) :
    ∀ frame ∈ Action.commandFrames r.2, TellsLightOut slots frame := fun _ hframe =>
  ⟨_, (htr.carries hs hframe).decoded, h.wire⟩

/-- **Every command frame tells all that shuts the light out**, as long as no input makes a
change. -/
theorem tellsLightOut_of_mem {later : List SessionInput} (hs : s.command.WellFormed)
    (h : s.command.HoldsLightOut slots) (hlater : ∀ i ∈ later, i.changes = []) :
    ∀ frame ∈ Action.commandFrames (s.runActions later).flatten, TellsLightOut slots frame := by
  induction later generalizing s with
  | nil => exact nofun
  | cons i is ih =>
    obtain ⟨hi, his⟩ := List.forall_mem_cons.1 hlater
    have htr := s.step_transition i
    have hnext := htr.holdsLightOut h hi
    rw [runActions, List.flatten_cons, Action.commandFrames_append, List.forall_mem_append]
    exact ⟨htr.tellsLightOut hs hnext, ih (htr.wellFormed hs) hnext his⟩

/-! ## The update -/

theorem update_eq_step {ms : List Change} {c : Command} (h : s.command.changeAll ms = .ok c) :
    s.update ms = .ok (s.step (.update ms)) := by
  rw [step_update_of_ok h, update, h, ok_bind]
  rfl

/-- A command that is issued may forget what one-shot actions it asks for. -/
theorem command_issueCommand (s : Session) :
    s.issueCommand.1.command = s.command ∨
      s.issueCommand.1.command = s.command.forgetRequested := by
  unfold issueCommand
  split
  · exact .inr rfl
  · exact .inl rfl
  · exact .inl rfl

/-- **What the update that shuts the light out does** to a session. -/
structure Darkens (slots : SafeSlots) (s : Session) (r : Step) : Prop where
  /-- The update is made. -/
  made : s.update (Change.shutLightOut slots.aperture slots.filter) = .ok r
  /-- The command asks for all that shuts the light out. -/
  command : r.1.command.ShutsLightOut slots
  /-- The rest of the command is as it was. -/
  besides : r.1.command.withoutLight = s.command.withoutLight
  /-- Every command frame asks for it, now and as long as no other update makes a change. -/
  told : ∀ later : List SessionInput, (∀ i ∈ later, i.changes = []) →
    ∀ frame ∈ Action.commandFrames (r.2 ++ (r.1.runActions later).flatten),
      TellsLightOut slots frame

/-- The update shuts the light out of any session that makes it. -/
theorem darkens (hwf : s.command.WellFormed)
    (hms : s.command.changeAll (Change.shutLightOut slots.aperture slots.filter) =
      .ok (s.command.lightOut slots)) :
    Darkens slots s (s.step (.update (Change.shutLightOut slots.aperture slots.filter))) := by
  have hdark := Command.holdsLightOut_lightOut slots s.command
  have hbesides := Command.withoutLight_lightOut slots s.command
  have htr := s.step_transition (.update (Change.shutLightOut slots.aperture slots.filter))
  have hmade := update_eq_step hms
  have hissued := command_issueCommand { s with command := s.command.lightOut slots }
  rw [← step_update_of_ok hms] at hissued
  generalize s.step _ = r at htr hmade hissued ⊢
  obtain ⟨hholds, hrest⟩ : r.1.command.HoldsLightOut slots ∧
      r.1.command.withoutLight = s.command.withoutLight := by
    rcases hissued with hkept | hforgotten
    · rw [hkept]
      exact ⟨hdark, hbesides⟩
    · rw [hforgotten]
      exact ⟨hdark.forgetRequested, hbesides⟩
  refine ⟨hmade, hholds.toShutsLightOut, hrest, fun later hlater => ?_⟩
  rw [Action.commandFrames_append, List.forall_mem_append]
  exact ⟨htr.tellsLightOut hwf hholds, tellsLightOut_of_mem (htr.wellFormed hwf) hholds hlater⟩

/-- **The light is shut out at any time, and stays so**: with the safe slots of an accepted
configuration the update is made, and from then on every command frame asks for all of it together,
whatever arrives and whatever fails. -/
theorem light_shut_out (config : Config) (h : config.check = .ok ()) (timing : Timing)
    (inputs : List SessionInput) :
    Darkens config.safeSlots (reached timing inputs) ((reached timing inputs).step
      (.update (Change.shutLightOut config.safeSlots.aperture config.safeSlots.filter))) :=
  darkens (command_wellFormed timing inputs) (Command.changeAll_shutLightOut h _)

/-- The light is shut out before anything is known of the hardware, and then an initial status tells
that the opposite holds of everything: the first command shuts the light out all the same. -/
theorem light_shut_out_before_status :
    let config : Config := { safeSlots := ⟨3, 7⟩ }
    let status : Status :=
      { instrumentShutter := InstrumentShutterStatus.opened, acqMirror := AcqMirrorStatus.measure
        apertureSlot := 5, filterSlot := 6 }
    let r := (reached {} []).step (.update (Change.shutLightOut 3 7))
    let frames := Action.commandFrames (r.2 ++ (r.1.runActions [.frame status.encode]).flatten)
    config.check = .ok () ∧ frames.length = 1 ∧ ∀ frame ∈ frames, TellsLightOut ⟨3, 7⟩ frame := by
  have haccepted : ({ safeSlots := ⟨3, 7⟩ } : Config).check = .ok () := by decide
  refine ⟨haccepted, by decide +kernel, ?_⟩
  exact (light_shut_out { safeSlots := ⟨3, 7⟩ } haccepted {} []).told _ (by decide)

end DomeLink.Session
