import DomeLink.Proofs.Session.Comms
import DomeLink.Proofs.Session.Status

/-!
# When a session asks for the status

From the initial status on a session asks for the status only where the poll timer runs out at rest.
The poll timer is started anew where it runs out and where a status is taken over, and nothing else
touches it: `statusPoll_step`. Of the other inputs, a heartbeat and an update send a command or put
one off (`Transition.sends_command`), and so does the end of an exchange (`state_resolve_eq`).
-/

namespace DomeLink.Session

variable {now : Nat} {tm : Timers} {s : Session} {i : SessionInput} {frame : Bytes} {r : Step}

/-! ## The poll timer -/

theorem statusPoll_resolve (s : Session) :
    (tm.after now s.resolve.2).deadlines.statusPoll = tm.deadlines.statusPoll :=
  deadlines_resolve s .statusPoll nofun

theorem statusPoll_failExchange (s : Session) :
    (tm.after now s.failExchange.2).deadlines.statusPoll = tm.deadlines.statusPoll :=
  deadlines_failExchange s .statusPoll nofun

theorem statusPoll_issueCommand (s : Session) :
    (tm.after now s.issueCommand.2).deadlines.statusPoll = tm.deadlines.statusPoll := by
  unfold issueCommand
  split <;> rfl

/-- The input starts the poll timer: the timer has run out, or a status is taken over. -/
def StartsPoll (s : Session) (i : SessionInput) : Prop :=
  i = .timer .statusPoll ∨ (s.acceptedStatus? i).isSome = true

/-- The poll timer after a step. -/
def PollsAfter (now : Nat) (tm tm' : Timers) (s : Session) (i : SessionInput) (r : Step) : Prop :=
  s.StartsPoll i ∧
      (tm'.after now r.2).deadlines.statusPoll = some (now + s.timing.period .statusPoll) ∨
    ¬ s.StartsPoll i ∧ (tm'.after now r.2).deadlines.statusPoll = tm.deadlines.statusPoll

theorem not_startsPoll_of_none (hi : i ≠ .timer .statusPoll) (h : s.acceptedStatus? i = none) :
    ¬ s.StartsPoll i := by
  rintro (heq | hsome)
  · exact hi heq
  · rw [h] at hsome
    cases hsome

/-- A reply that the session waits for starts the poll timer if it is a status. -/
theorem startsPoll_frame_iff (h : s.state.Takes frame) : s.StartsPoll (.frame frame) ↔
    s.state = .awaitInitialStatus ∨ s.state = .awaitStatus := by
  have hstatus (hs : s.state = .awaitInitialStatus ∨ s.state = .awaitStatus)
      (hdecodes : ∃ status, Status.decode frame = .ok status) : s.StartsPoll (.frame frame) := by
    obtain ⟨status, hstatus⟩ := hdecodes
    rw [StartsPoll, acceptedStatus?_of_ok hs hstatus]
    exact .inr rfl
  cases hs : s.state with
  | awaitInitialStatus => exact iff_of_true (hstatus (.inl hs) (by rwa [hs] at h)) (.inl rfl)
  | awaitStatus => exact iff_of_true (hstatus (.inr hs) (by rwa [hs] at h)) (.inr rfl)
  | awaitCommandAck =>
    exact iff_of_false (not_startsPoll_of_none nofun (acceptedStatus?_of_awaitCommandAck hs))
      (by rintro (hs | hs) <;> cases hs)
  | idle | closed =>
    rw [hs] at h
    cases h

theorem pollsAfter_onFrame (s : Session) (frame : Bytes) :
    PollsAfter now tm tm s (.frame frame) (s.onFrame frame) := by
  have hquiet (h : s.acceptedStatus? (.frame frame) = none) : ¬ s.StartsPoll (.frame frame) :=
    not_startsPoll_of_none nofun h
  unfold onFrame
  split
  · rename_i hs
    unfold initialStatus
    split
    · rename_i e he
      exact .inr ⟨hquiet (acceptedStatus?_of_error he), rfl⟩
    · rename_i status hf
      refine .inl ⟨.inr ?_, rfl⟩
      rw [acceptedStatus?_of_ok (.inl hs) hf]
      rfl
  · rename_i hs
    unfold statusReply
    split
    · rename_i e he
      refine .inr ⟨hquiet ?_, statusPoll_failExchange s⟩
      cases hf : Status.decode frame with
      | error e => exact acceptedStatus?_of_error hf
      | ok status =>
        obtain ⟨result, hresult⟩ := exists_applyChanges (s := s) ⟨status, hf⟩
        exact absurd (he.symm.trans hresult) nofun
    · rename_i status changed hok
      obtain ⟨fresh, hfresh, -⟩ := bind_eq_ok.1 hok
      refine .inl ⟨.inr ?_, ?_⟩
      · rw [acceptedStatus?_of_ok (.inr hs) hfresh]
        rfl
      · dsimp only
        rw [Timers.after_append, statusPoll_resolve, List.cons_append, Timers.after_cons,
          Timers.after_append, after_handsetEdge]
        rfl
  · rename_i hs
    refine .inr ⟨hquiet (acceptedStatus?_of_awaitCommandAck hs), ?_⟩
    unfold commandAck
    split
    · exact statusPoll_failExchange s
    · show (tm.after now ((.cancel .response :: s.commsEdge true) ++
        s.arm .heartbeat :: s.acknowledged.resolve.2)).deadlines.statusPoll = _
      rw [Timers.after_append, Timers.after_cons (.cancel _), after_commsEdge, Timers.after_cons,
        statusPoll_resolve]
      rfl
  all_goals
    rename_i hs
    refine .inr ⟨hquiet ?_, rfl⟩
    simp [acceptedStatus?, hs]

theorem pollsAfter_onTimer (hs : s.state ≠ .closed) (timer : Timer) :
    PollsAfter now tm (tm.expire (.timer timer)) s (.timer timer) (s.onTimer timer) := by
  have hquiet (h : timer ≠ .statusPoll) : ¬ s.StartsPoll (.timer timer) :=
    not_startsPoll_of_none (fun heq => h (SessionInput.timer.inj heq)) rfl
  unfold onTimer
  rw [if_neg hs]
  cases timer with
  | response =>
    refine .inr ⟨hquiet nofun, ?_⟩
    show (Timers.after now _ s.onResponseTimeout.2).deadlines.statusPoll = _
    unfold onResponseTimeout
    split
    · rfl
    · exact statusPoll_failExchange s
    · exact statusPoll_failExchange s
    all_goals rfl
  | statusPoll =>
    refine .inl ⟨.inl rfl, ?_⟩
    show (Timers.after now _ s.onStatusPoll.2).deadlines.statusPoll = _
    unfold onStatusPoll
    split <;> rfl
  | heartbeat =>
    refine .inr ⟨hquiet nofun, ?_⟩
    show (Timers.after now _ (s.arm .heartbeat :: s.issueCommand.2)).deadlines.statusPoll = _
    rw [Timers.after_cons, statusPoll_issueCommand]
    rfl

/-- **The poll timer is started** where it runs out and where a status is taken over, with its
period; no other step of a session that stays open touches it. -/
theorem statusPoll_step (hs : s.state ≠ .closed) (hi : i ≠ .close) :
    PollsAfter now tm (tm.expire i) s i (s.step i) := by
  cases i with
  | frame bytes => exact pollsAfter_onFrame s bytes
  | timer timer => exact pollsAfter_onTimer hs timer
  | update changes =>
    refine .inr ⟨not_startsPoll_of_none nofun rfl, ?_⟩
    cases hc : s.command.changeAll changes with
    | error e =>
      rw [step_update_of_error hc]
      rfl
    | ok command =>
      rw [step_update_of_ok hc]
      exact statusPoll_issueCommand { s with command }
  | transmitError =>
    refine .inr ⟨not_startsPoll_of_none nofun rfl, ?_⟩
    show (Timers.after now _ s.onTransmitError.2).deadlines.statusPoll = _
    unfold onTransmitError
    split
    · exact statusPoll_failExchange s
    · exact statusPoll_failExchange s
    all_goals rfl
  | close => exact absurd rfl hi

/-! ## What is sent -/

/-- At rest, the status is asked for as the poll timer runs out. -/
theorem step_statusPoll_of_idle (hs : s.state = .idle) :
    (s.step (.timer .statusPoll)).1.state = .awaitStatus ∧
      Action.frames (s.step (.timer .statusPoll)).2 = [Frame.statusRequest] := by
  have hopen : s.state ≠ .closed := by
    rw [hs]
    exact nofun
  simp only [step, onTimer, if_neg hopen, onStatusPoll, if_pos hs]
  exact ⟨rfl, rfl⟩

/-- A heartbeat and an update send the command from rest, and put it off or do nothing otherwise. -/
theorem Transition.sends_command (htr : Transition s i r)
    (hi : i = .timer .heartbeat ∨ ∃ changes, i = .update changes) :
    r.1.state = s.state ∧ Action.sends r.2 = 0 ∨ s.state = .idle ∧ r.1.state = .awaitCommandAck := by
  cases htr with
  | ignore | beatLater | updateLater | updateClosed => exact .inl ⟨rfl, rfl⟩
  | beat hs | update _ hs => exact .inr ⟨hs, rfl⟩
  | finish ht =>
    have hends := ht.endsExchange
    rcases hi with rfl | ⟨changes, rfl⟩ <;> cases hends
  | retry | poll | pollLater | close => rcases hi with hi | ⟨changes, hi⟩ <;> cases hi

end DomeLink.Session
