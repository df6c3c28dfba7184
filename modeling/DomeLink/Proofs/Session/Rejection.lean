import DomeLink.Proofs.Command.Change
import DomeLink.Proofs.Session.Commands

/-!
# Rejected input leaves what is known alone

A session reads a frame field by field, and a list of changes is made one after the other, so both
can go wrong midway. Nothing of what was read or made until then stays.

* A frame that cannot be taken in gives up the exchange (`Abandons`), and what the session knows of
  the status and of the command is as before. A frame that comes while the initial status is awaited
  and is none is ignored, and so is every frame that no one has asked for.
* A list of changes with one that is at fault gives the fault of the first such change, and nothing
  else (`step_update_of_fault`).

`withstands` says this of every session, in whatever state it is.
-/

namespace DomeLink.Session

/-- **The exchange is given up**, and nothing else is lost: the session sends the command that
waited, as it is, or rests. -/
structure Abandons (s : Session) (r : Step) : Prop where
  status : r.1.status = s.status
  rawStatus : r.1.rawStatus = s.rawStatus
  /-- All of the command that a frame carries. -/
  wire : r.1.command.wire = s.command.wire
  controlled : r.1.command.controlled = s.command.controlled
  commsOk : r.1.commsOk = false
  resends : s.commandPending = true →
    r.1.state = .awaitCommandAck ∧ Action.frames r.2 = [s.command.encode]
  rests : s.commandPending = false → r.1.state = .idle ∧ Action.frames r.2 = []

variable {s : Session} {frame : Bytes} {e : Fault}

/-! ## Frames -/

theorem abandons_failExchange (s : Session) : s.Abandons s.failExchange := by
  have hsilent : Action.frames (.cancel .response :: s.commsEdge false) = [] :=
    Action.frames_eq_nil (by rw [Action.sends_cons, sends_commsEdge]; rfl)
  rw [failExchange_eq]
  cases hp : s.commandPending with
  | true =>
    rw [resolve_of_pending (s := s.failed) hp]
    refine ⟨rfl, rfl, rfl, rfl, rfl, fun _ => ⟨rfl, ?_⟩, fun h => Bool.noConfusion (hp.symm.trans h)⟩
    rw [Action.frames_append, hsilent]
    rfl
  | false =>
    rw [resolve_of_not_pending (s := s.failed) hp]
    refine ⟨rfl, rfl, rfl, rfl, rfl, fun h => Bool.noConfusion (hp.symm.trans h), fun _ => ⟨rfl, ?_⟩⟩
    rw [List.append_nil, hsilent]

theorem step_frame_of_not_initial (hs : s.state = .awaitInitialStatus)
    (hf : Status.decode frame = .error e) : s.step (.frame frame) = (s, []) := by
  simp only [step, onFrame, hs, initialStatus, hf]

theorem step_frame_of_not_status (hs : s.state = .awaitStatus)
    (hf : Status.decode frame = .error e) : s.step (.frame frame) = s.failExchange := by
  simp only [step, onFrame, hs, statusReply, Status.applyChanges, hf, error_bind]

theorem step_frame_of_not_ack (hs : s.state = .awaitCommandAck)
    (hf : Frame.checkReply .commandAck frame = .error e) :
    s.step (.frame frame) = s.failExchange := by
  simp only [step, onFrame, hs, commandAck, hf]

theorem step_frame_of_not_awaiting (hs : s.state = .idle ∨ s.state = .closed) (frame : Bytes) :
    s.step (.frame frame) = (s, []) := by
  rcases hs with hs | hs <;> simp only [step, onFrame, hs]

/-! ## Changes -/

/-- The changes before the one at fault are undone, and the fault is told. -/
theorem step_update_of_fault {m : Change} (hm : m.check = .error e) {done : List Change}
    (hdone : ∀ m' ∈ done, m'.check = .ok ()) (rest : List Change) (s : Session) :
    s.update (done ++ m :: rest) = .error e ∧
      s.step (.update (done ++ m :: rest)) = (s, []) := by
  have hall := Command.changeAll_append_cons_of_error hm hdone rest s.command
  refine ⟨?_, step_update_of_error hall⟩
  rw [update, hall, error_bind]

/-! ## All of it -/

/-- **What rejected input does to a session**: nothing, or it gives up the exchange. -/
structure Withstands (s : Session) : Prop where
  /-- The initial status is awaited further on. -/
  initial : s.state = .awaitInitialStatus → ∀ frame e, Status.decode frame = .error e →
    s.step (.frame frame) = (s, [])
  status : s.state = .awaitStatus → ∀ frame e, Status.decode frame = .error e →
    s.Abandons (s.step (.frame frame))
  ack : s.state = .awaitCommandAck → ∀ frame e, Frame.checkReply .commandAck frame = .error e →
    s.Abandons (s.step (.frame frame))
  /-- Frames that no one has asked for are ignored, whatever they are. -/
  unasked : s.state = .idle ∨ s.state = .closed → ∀ frame, s.step (.frame frame) = (s, [])
  /-- The first change that is at fault decides, however many before it were made. -/
  update : ∀ ms, (∃ m ∈ ms, m.check ≠ .ok ()) → ∃ done m rest e,
    ms = done ++ m :: rest ∧ (∀ m' ∈ done, m'.check = .ok ()) ∧ m.check = .error e ∧
      s.update ms = .error e ∧ s.step (.update ms) = (s, [])

/-- **Rejected input never harms a session**, whichever state it is in. -/
theorem withstands (s : Session) : s.Withstands where
  initial := fun hs _ _ hf => step_frame_of_not_initial hs hf
  status := fun hs _ _ hf => by
    rw [step_frame_of_not_status hs hf]
    exact abandons_failExchange s
  ack := fun hs _ _ hf => by
    rw [step_frame_of_not_ack hs hf]
    exact abandons_failExchange s
  unasked := step_frame_of_not_awaiting
  update := fun ms h => by
    obtain ⟨done, m, rest, e, rfl, hdone, hm⟩ := Command.exists_first_fault h
    exact ⟨done, m, rest, e, rfl, hdone, hm, step_update_of_fault hm hdone rest s⟩

end DomeLink.Session
