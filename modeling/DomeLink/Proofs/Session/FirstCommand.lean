import DomeLink.Proofs.Command.Seed
import DomeLink.Proofs.Session.Delivery
import DomeLink.Proofs.Session.Status

/-!
# The first command

Nothing but status requests goes out until the initial status has arrived. Updates made meanwhile
gather in the command. The status that is accepted then sends it for the first time, and so it must
not ask the hardware for anything but what the updates asked for.

* `silent_before_initial_status`: what goes out before.
* `first_command`: the frame that goes out then, and what it asks for (`Command.Seeded`).
-/

namespace DomeLink

/-- The changes of an update that is made; a refused one makes none. -/
def SessionInput.changes : SessionInput → List Change
  | .update ms => if ∀ m ∈ ms, m.check = .ok () then ms else []
  | _ => []

theorem Command.Seeded.wire {ms : List Change} {status : Status} {c : Command}
    (h : Seeded ms status c) : Seeded ms status c.wire := { h with }

namespace Session

open DomeLink.Command (made)

/-- The changes of all updates among the inputs that are made, in their order. -/
def changesOf (inputs : List SessionInput) : List Change := inputs.flatMap SessionInput.changes

theorem changesOf_snoc (inputs : List SessionInput) (i : SessionInput) :
    changesOf (inputs ++ [i]) = changesOf inputs ++ i.changes := by
  rw [changesOf, List.flatMap_append, List.flatMap_singleton, changesOf]

variable {s : Session} {i : SessionInput} {r : Step}

/-! ## Updates before the initial status -/

theorem changes_of_ok {c c' : Command} {ms : List Change} (h : c.changeAll ms = .ok c') :
    c' = (SessionInput.update ms).changes.foldl Command.make c := by
  obtain ⟨hchecks, hmake⟩ := Command.changeAll_eq_ok_iff.1 h
  rw [SessionInput.changes, if_pos hchecks, hmake]

theorem changes_of_not_ok {c : Command}
    (h : ∀ ms c', i = .update ms → c.changeAll ms ≠ .ok c') : i.changes = [] := by
  cases i with
  | update ms =>
    refine if_neg fun hchecks => ?_
    exact h ms _ rfl (Command.changeAll_eq_ok_iff.2 ⟨hchecks, rfl⟩)
  | _ => rfl

/-- While the initial status is awaited, an update changes the command, and nothing else does. -/
theorem Transition.command_of_awaitInitialStatus (htr : Transition s i r)
    (hr : r.1.state = .awaitInitialStatus) :
    s.state = .awaitInitialStatus ∧ r.1.command = i.changes.foldl Command.make s.command := by
  cases htr with
  | ignore _ hms => exact ⟨hr, by rw [changes_of_not_ok hms]; rfl⟩
  | retry hs => exact ⟨hs, rfl⟩
  | pollLater | beatLater => exact ⟨hr, rfl⟩
  | updateLater hms => exact ⟨hr, changes_of_ok hms⟩
  | updateClosed hms => exact ⟨hr, changes_of_ok hms⟩
  | @finish _ t => exact absurd hr (state_resolve_ne t)
  | poll | beat | update | close => cases hr

theorem command_of_awaitInitialStatus (timing : Timing) (inputs : List SessionInput) :
    (reached timing inputs).state = .awaitInitialStatus →
      (reached timing inputs).command = made (changesOf inputs) := by
  induction inputs using List.reverseRecOn with
  | nil => exact fun _ => rfl
  | append_singleton inputs i ih =>
    intro hs
    rw [reached_snoc] at hs ⊢
    obtain ⟨hbefore, hcommand⟩ :=
      ((reached timing inputs).step_transition i).command_of_awaitInitialStatus hs
    rw [hcommand, ih hbefore, changesOf_snoc, made, made, List.foldl_append]

/-! ## What goes out before the initial status -/

/-- A session that has accepted no status asks for one, or is closed. -/
theorem Tracks.eq_statusRequest {timing : Timing} {before : List Action} {frame : Bytes}
    (h : Tracks r.1 []) (hasks : Asks timing r before frame) : frame = Frame.statusRequest := by
  have hopen : r.1.state ≠ .closed := by
    intro hclosed
    have hawait := hasks.awaiting
    rw [hclosed] at hawait
    cases hawait
  exact hasks.status (.inl ((h.first hopen).2 rfl))

/-- **Until a status is accepted, only status requests go out.** -/
theorem silent_before_initial_status (timing : Timing) (inputs : List SessionInput) :
    (opened timing).1.acceptedStatuses inputs = [] →
      ∀ frame ∈ Action.frames (transcript timing inputs), frame = Frame.statusRequest := by
  induction inputs using List.reverseRecOn with
  | nil =>
    intro _ frame hframe
    rw [transcript, runActions, List.flatten_nil, List.append_nil] at hframe
    exact (asks_opened timing).eq_of_mem (Action.mem_frames.1 hframe)
  | append_singleton inputs i ih =>
    intro hnone frame hframe
    have htracks := tracks_reached timing (inputs ++ [i])
    rw [hnone, reached_snoc] at htracks
    rw [acceptedStatuses_append, List.append_eq_nil_iff] at hnone
    rw [transcript_snoc, Action.frames_append, List.mem_append] at hframe
    rcases hframe with hearlier | hnow
    · exact ih hnone.1 frame hearlier
    · have hmem := Action.mem_frames.1 hnow
      rcases ((reached timing inputs).step_transition i).asks with hquiet | ⟨_, _, hasks, _⟩
      · exact absurd hmem (not_mem_of_sends_eq_zero hquiet)
      · exact (hasks.eq_of_mem hmem).trans (htracks.eq_statusRequest hasks)

/-! ## The command that goes out then -/

theorem step_frame_of_initial {frame : Bytes} {status : Status}
    (hs : s.state = .awaitInitialStatus) (hf : Status.decode frame = .ok status) :
    Action.frames (s.step (.frame frame)).2 = [(s.command.seed status).encode] := by
  simp only [step, onFrame, hs, initialStatus, hf]
  rfl

/-- **The first command never contradicts the hardware.** Before a status is accepted only status
requests go out. The input that brings the initial status sends one frame; what the controller reads
in it is what the updates before set last, and the reported status where they set nothing. -/
theorem first_command (timing : Timing) (inputs : List SessionInput) :
    ((opened timing).1.acceptedStatuses inputs = [] →
        ∀ frame ∈ Action.frames (transcript timing inputs), frame = Frame.statusRequest) ∧
      ((reached timing inputs).state = .awaitInitialStatus →
        ∀ frame status, Status.decode frame = .ok status →
          ∃ sent told, Action.frames ((reached timing inputs).step (.frame frame)).2 = [sent] ∧
            Command.decode sent = .ok told ∧ Command.Seeded (changesOf inputs) status told) := by
  refine ⟨silent_before_initial_status timing inputs, fun hs frame status hf => ?_⟩
  have hcommand := command_of_awaitInitialStatus timing inputs hs
  have hwf : ((reached timing inputs).command.seed status).WellFormed :=
    Command.seed_wellFormed (command_wellFormed timing inputs) (Status.decode_inRange hf)
  refine ⟨_, _, step_frame_of_initial hs hf, Command.decode_encode_of_wellFormed hwf, ?_⟩
  rw [hcommand]
  exact (Command.seeded_made (changesOf inputs) status).wire

end Session

end DomeLink
