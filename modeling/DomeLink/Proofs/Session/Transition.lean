import DomeLink.Proofs.Outcome
import DomeLink.Session.Run
import DomeLink.Session.Sends

/-!
# What one input can do to a session

Whatever happens to a session, it does one of few things, and `Transition` lists them. Either the
input is ignored, or a request is sent from rest, or a request is put off, or the exchange ends.

The end of an exchange has two parts. First the reply, or its failure, is settled: `Settles` says
what it does to the session. Then the command that waited is sent, or the session is at rest again:
that is `resolve`.

* `step_transition`: every step is one of the transitions.
* `exists_settles`: the inputs that end an exchange (`endsExchange`) are those that settle it.
-/

namespace DomeLink

/-- The exchange ends without a valid reply too; the initial status is asked for again instead. -/
def SessionState.canFail : SessionState → Bool
  | .awaitStatus | .awaitCommandAck => true
  | .awaitInitialStatus | .idle | .closed => false

namespace Session

/-! ## The end of an exchange -/

/-- The input ends the exchange that the session is in: a reply, accepted or rejected, the end of
the response timer or a failed transmission; while the initial status is awaited, an accepted one
alone. -/
def endsExchange (s : Session) : SessionInput → Bool
  | .frame bytes =>
    s.state.canFail || (s.state == .awaitInitialStatus && (Status.decode bytes).isOk)
  | .timer .response | .transmitError => s.state.canFail
  | .timer .statusPoll | .timer .heartbeat | .update _ | .close => false

/-- The initial status has been taken in; the command is to be sent. -/
def seeded (s : Session) (frame : Bytes) (status : Status) : Session :=
  { s with status, rawStatus := frame, command := s.command.seed status, commandPending := true }

/-- A status has been taken in; the command is to be sent if that changed it. -/
def refreshed (s : Session) (frame : Bytes) (status : Status) : Session :=
  { s with
    status
    rawStatus := frame
    command := s.command.confirm status
    commandPending := s.commandPending || s.command.isConfirmedBy status }

/-- The command has been acknowledged. -/
def acknowledged (s : Session) : Session :=
  { s with
    command := s.command.clearOneShots (s.inFlight.erase s.command.requested)
    inFlight := ∅
    commsOk := true }

/-- The exchange has failed. -/
def failed (s : Session) : Session := { s with inFlight := ∅, commsOk := false }

/-- **How an exchange ends**: what the last input of an exchange does to the session, before the
command that waits is sent. -/
inductive Settles (s : Session) : SessionInput → Session → Prop
  | seeded {frame : Bytes} {status : Status} (h : s.state = .awaitInitialStatus)
      (hf : Status.decode frame = .ok status) : Settles s (.frame frame) (s.seeded frame status)
  | refreshed {frame : Bytes} {status : Status} {changed : List StatusField}
      (h : s.state = .awaitStatus)
      (hf : s.status.applyChanges s.rawStatus frame = .ok (status, changed)) :
      Settles s (.frame frame) (s.refreshed frame status)
  | acknowledged {frame : Bytes} (h : s.state = .awaitCommandAck)
      (hf : Frame.checkReply .commandAck frame = .ok ()) :
      Settles s (.frame frame) s.acknowledged
  | badStatus {frame : Bytes} {e : Fault} (h : s.state = .awaitStatus)
      (hf : s.status.applyChanges s.rawStatus frame = .error e) :
      Settles s (.frame frame) s.failed
  | badAck {frame : Bytes} {e : Fault} (h : s.state = .awaitCommandAck)
      (hf : Frame.checkReply .commandAck frame = .error e) :
      Settles s (.frame frame) s.failed
  | timeout (h : s.state.canFail = true) : Settles s (.timer .response) s.failed
  | transmitError (h : s.state.canFail = true) : Settles s .transmitError s.failed

/-! ## Transitions -/

/-- **What one input does** to a session: the session after it, and its actions. -/
inductive Transition (s : Session) : SessionInput → Step → Prop
  /-- Nothing happens. -/
  | ignore {i : SessionInput} (hends : s.endsExchange i = false)
      (hms : ∀ ms c, i = .update ms → s.command.changeAll ms ≠ .ok c) : Transition s i (s, [])
  /-- The initial status is asked for again. -/
  | retry (h : s.state = .awaitInitialStatus) :
      Transition s (.timer .response) (s.requestStatus .awaitInitialStatus)
  /-- The status is asked for. -/
  | poll (h : s.state = .idle) :
      Transition s (.timer .statusPoll)
        ((s.requestStatus .awaitStatus).1, s.arm .statusPoll :: (s.requestStatus .awaitStatus).2)
  | pollLater (h : s.state ≠ .idle) :
      Transition s (.timer .statusPoll) (s, [s.arm .statusPoll])
  /-- The command is sent as it is. -/
  | beat (h : s.state = .idle) :
      Transition s (.timer .heartbeat) (s.sendCommand.1, s.arm .heartbeat :: s.sendCommand.2)
  | beatLater (h : s.state.isAwaiting = true) :
      Transition s (.timer .heartbeat) ({ s with commandPending := true }, [s.arm .heartbeat])
  /-- The command is changed and sent. -/
  | update {ms : List Change} {c : Command} (hms : s.command.changeAll ms = .ok c)
      (h : s.state = .idle) : Transition s (.update ms) { s with command := c }.sendCommand
  | updateLater {ms : List Change} {c : Command} (hms : s.command.changeAll ms = .ok c)
      (h : s.state.isAwaiting = true) :
      Transition s (.update ms) ({ s with command := c, commandPending := true }, [])
  | updateClosed {ms : List Change} {c : Command} (hms : s.command.changeAll ms = .ok c)
      (h : s.state = .closed) : Transition s (.update ms) ({ s with command := c }, [])
  /-- The exchange ends. -/
  | finish {i : SessionInput} {t : Session} {before : List Action} (ht : s.Settles i t)
      (hcancel : Action.cancel .response ∈ before) (hsends : Action.sends before = 0) :
      Transition s i (t.resolve.1, before ++ t.resolve.2)
  | close (h : s.state ≠ .closed) :
      Transition s .close
        ({ s with state := .closed, commandPending := false }, Timer.all.map .cancel)

/-! ## Every step is a transition -/

variable {s : Session}

theorem isAwaiting_of_ne (hidle : s.state ≠ .idle) (hclosed : s.state ≠ .closed) :
    s.state.isAwaiting = true := by
  cases h : s.state
  · exact absurd h hidle
  · rfl
  · rfl
  · rfl
  · exact absurd h hclosed

theorem failExchange_eq (s : Session) :
    s.failExchange =
      (s.failed.resolve.1, (.cancel .response :: s.commsEdge false) ++ s.failed.resolve.2) :=
  rfl

theorem transition_failExchange {i : SessionInput} (h : s.Settles i s.failed) :
    Transition s i s.failExchange := by
  rw [failExchange_eq]
  refine .finish h List.mem_cons_self ?_
  rw [Action.sends_cons, sends_commsEdge]
  rfl

theorem transition_ignore {i : SessionInput} (hends : s.endsExchange i = false)
    (hi : ∀ ms, i ≠ .update ms) : Transition s i (s, []) :=
  .ignore hends fun ms _ h => absurd h (hi ms)

theorem transition_initialStatus (h : s.state = .awaitInitialStatus) (frame : Bytes) :
    Transition s (.frame frame) (s.initialStatus frame) := by
  unfold initialStatus
  split
  · rename_i e he
    refine transition_ignore ?_ fun _ => SessionInput.noConfusion
    simp [endsExchange, h, SessionState.canFail, he, Except.isOk, Except.toBool]
  · rename_i status hf
    exact .finish (.seeded h hf) List.mem_cons_self rfl

theorem transition_statusReply (h : s.state = .awaitStatus) (frame : Bytes) :
    Transition s (.frame frame) (s.statusReply frame) := by
  unfold statusReply
  split
  · rename_i e he
    exact transition_failExchange (.badStatus h he)
  · rename_i status changed hf
    refine .finish (.refreshed h hf) List.mem_cons_self ?_
    simp [sends_handsetEdge, Action.isTransmit, arm]

theorem transition_commandAck (h : s.state = .awaitCommandAck) (frame : Bytes) :
    Transition s (.frame frame) (s.commandAck frame) := by
  unfold commandAck
  split
  · rename_i e he
    exact transition_failExchange (.badAck h he)
  · rename_i hf
    show Transition s _ (s.acknowledged.resolve.1,
      (.cancel .response :: s.commsEdge true) ++ s.arm .heartbeat :: s.acknowledged.resolve.2)
    rw [List.append_cons]
    refine .finish (.acknowledged h hf) List.mem_cons_self ?_
    simp [sends_commsEdge, Action.isTransmit, arm]

theorem transition_onFrame (frame : Bytes) : Transition s (.frame frame) (s.onFrame frame) := by
  unfold onFrame
  split
  · exact transition_initialStatus ‹_› frame
  · exact transition_statusReply ‹_› frame
  · exact transition_commandAck ‹_› frame
  all_goals
    rename_i h
    refine transition_ignore ?_ fun _ => SessionInput.noConfusion
    simp [endsExchange, h, SessionState.canFail]

theorem transition_onTimer (timer : Timer) : Transition s (.timer timer) (s.onTimer timer) := by
  unfold onTimer
  by_cases hc : s.state = .closed
  · rw [if_pos hc]
    refine transition_ignore ?_ fun _ => SessionInput.noConfusion
    cases timer <;> simp [endsExchange, hc, SessionState.canFail]
  · rw [if_neg hc]
    cases timer with
    | response =>
      show Transition s _ s.onResponseTimeout
      unfold onResponseTimeout
      split
      · exact .retry ‹_›
      · rename_i h
        exact transition_failExchange (.timeout (by rw [h]; rfl))
      · rename_i h
        exact transition_failExchange (.timeout (by rw [h]; rfl))
      all_goals
        rename_i h
        refine transition_ignore ?_ fun _ => SessionInput.noConfusion
        simp [endsExchange, h, SessionState.canFail]
    | statusPoll =>
      show Transition s _ s.onStatusPoll
      unfold onStatusPoll
      split
      · exact .poll ‹_›
      · exact .pollLater ‹_›
    | heartbeat =>
      show Transition s _ s.onHeartbeat
      unfold onHeartbeat issueCommand
      split
      · exact .beat ‹_›
      · exact absurd ‹_› hc
      · rename_i hidle hclosed
        exact .beatLater (isAwaiting_of_ne hidle hclosed)

theorem step_update_of_error {ms : List Change} {e : Fault}
    (h : s.command.changeAll ms = .error e) : s.step (.update ms) = (s, []) := by
  simp only [step, update, h, error_bind]

theorem step_update_of_ok {ms : List Change} {c : Command}
    (h : s.command.changeAll ms = .ok c) :
    s.step (.update ms) = { s with command := c }.issueCommand := by
  simp only [step, update, h, ok_bind]
  rfl

theorem transition_update (ms : List Change) :
    Transition s (.update ms) (s.step (.update ms)) := by
  cases hc : s.command.changeAll ms with
  | error e =>
    rw [step_update_of_error hc]
    refine .ignore ?_ fun ms' c h => ?_
    · rfl
    · cases h
      rw [hc]
      intro h
      cases h
  | ok c =>
    rw [step_update_of_ok hc]
    unfold issueCommand
    split
    · exact .update hc ‹_›
    · exact .updateClosed hc ‹_›
    · rename_i hidle hclosed
      exact .updateLater hc (isAwaiting_of_ne hidle hclosed)

theorem transition_onTransmitError : Transition s .transmitError s.onTransmitError := by
  unfold onTransmitError
  split
  · rename_i h
    exact transition_failExchange (.transmitError (by rw [h]; rfl))
  · rename_i h
    exact transition_failExchange (.transmitError (by rw [h]; rfl))
  all_goals
    rename_i h
    refine transition_ignore ?_ fun _ => SessionInput.noConfusion
    simp [endsExchange, h, SessionState.canFail]

theorem transition_close : Transition s .close s.close := by
  unfold close
  split
  · exact transition_ignore rfl fun _ => SessionInput.noConfusion
  · exact .close ‹_›

/-- **Every step is one of the transitions.** -/
theorem step_transition (s : Session) (i : SessionInput) : Transition s i (s.step i) := by
  cases i with
  | frame bytes => exact transition_onFrame bytes
  | timer timer => exact transition_onTimer timer
  | update ms => exact transition_update ms
  | transmitError => exact transition_onTransmitError
  | close => exact transition_close

/-! ## The inputs that end an exchange -/

theorem Settles.endsExchange {i : SessionInput} {t : Session} (h : s.Settles i t) :
    s.endsExchange i = true := by
  cases h with
  | seeded h hf => simp [Session.endsExchange, h, hf, Except.isOk, Except.toBool]
  | refreshed h | acknowledged h | badStatus h | badAck h =>
    simp [Session.endsExchange, h, SessionState.canFail]
  | timeout h | transmitError h => exact h

theorem Settles.isAwaiting {i : SessionInput} {t : Session} (h : s.Settles i t) :
    s.state.isAwaiting = true := by
  have hfail (h : s.state.canFail = true) : s.state.isAwaiting = true := by
    cases hs : s.state <;> simp_all [SessionState.canFail, SessionState.isAwaiting]
  cases h with
  | seeded h | refreshed h | acknowledged h | badStatus h | badAck h => rw [h]; rfl
  | timeout h | transmitError h => exact hfail h

/-- **The inputs that end an exchange settle it**, and then the command that waits is sent. -/
theorem exists_settles {i : SessionInput} (h : s.endsExchange i = true) :
    ∃ t before, s.Settles i t ∧ Action.sends before = 0 ∧
      s.step i = (t.resolve.1, before ++ t.resolve.2) := by
  have htr := s.step_transition i
  generalize s.step i = r at htr ⊢
  cases htr with
  | ignore hends => exact absurd hends (by rw [h]; decide)
  | retry hs | poll hs | beat hs => simp [Session.endsExchange, hs, SessionState.canFail] at h
  | finish ht _ hsends => exact ⟨_, _, ht, hsends, rfl⟩
  | _ => simp [Session.endsExchange] at h

/-! ## Runs from the opening -/

/-- The session that the inputs lead to from its opening. -/
def reached (timing : Timing) (inputs : List SessionInput) : Session :=
  (opened timing).1.run inputs

theorem reached_append (timing : Timing) (is js : List SessionInput) :
    reached timing (is ++ js) = (reached timing is).run js := run_append _ is js

theorem reached_snoc (timing : Timing) (inputs : List SessionInput) (i : SessionInput) :
    reached timing (inputs ++ [i]) = ((reached timing inputs).step i).1 :=
  reached_append timing inputs [i]

/-- What holds at the opening and is preserved by every transition holds at every reached
session. -/
theorem reached_induction {P : Session → Prop} {timing : Timing} (hopen : P (opened timing).1)
    (hstep : ∀ s i r, Transition s i r → P s → P r.1) (inputs : List SessionInput) :
    P (reached timing inputs) := by
  suffices h : ∀ s, P s → P (s.run inputs) from h _ hopen
  induction inputs with
  | nil => exact fun s hs => hs
  | cons i is ih => exact fun s hs => ih _ (hstep s i _ (s.step_transition i) hs)

/-! ## Timing -/

theorem timing_resolve (s : Session) : s.resolve.1.timing = s.timing := by
  unfold resolve
  split <;> rfl

theorem Settles.timing {i : SessionInput} {t : Session} (h : s.Settles i t) :
    t.timing = s.timing := by
  cases h <;> rfl

theorem timing_reached (timing : Timing) (inputs : List SessionInput) :
    (reached timing inputs).timing = timing := by
  refine reached_induction (P := fun s => s.timing = timing) rfl ?_ inputs
  intro s i r h hs
  cases h with
  | finish ht => exact (timing_resolve _).trans (ht.timing.trans hs)
  | _ => exact hs

end Session

end DomeLink
