import DomeLink.Proofs.Session.Delivery
import DomeLink.Proofs.Session.Timers
import DomeLink.Proofs.Wire.Damage
import DomeLink.Proofs.Status.Fields

/-!
# What a session tells of the link

A session tells of every change of `commsOk`, and of nothing else about the link: `tellsEdge_step`.
A reply that the session waits for (`SessionState.Takes`) never makes `commsOk` false; where every
frame is refused an exchange ends with `commsOk` false.

The heartbeat is put off only where a command goes out, waits, or has just been acknowledged
(`putsOff_step`), so a session that has lost the link finds out with the next heartbeat whether
it is back.
-/

namespace DomeLink

namespace Action

/-- What the actions tell clients, in order. -/
def events (actions : List Action) : List SessionEvent :=
  actions.filterMap fun
    | .notify event => some event
    | _ => none

/-- What is told about the controller answering or not. -/
def edge? : SessionEvent → Option Bool
  | .commsChanged ok => some ok
  | _ => none

/-- What the actions tell about the controller answering or not, in order. -/
def edges (actions : List Action) : List Bool := (events actions).filterMap edge?

theorem edges_notify_cons (event : SessionEvent) (as : List Action) :
    edges (.notify event :: as) = (edge? event).toList ++ edges as := by
  show List.filterMap edge? (event :: events as) = _
  rw [List.filterMap_cons]
  cases edge? event <;> rfl

theorem events_append (as bs : List Action) : events (as ++ bs) = events as ++ events bs :=
  List.filterMap_append

@[simp] theorem edges_append (as bs : List Action) : edges (as ++ bs) = edges as ++ edges bs := by
  rw [edges, events_append, List.filterMap_append]
  rfl

end Action

/-- The frame is a reply that a session in the state waits for. -/
def SessionState.Takes : SessionState → Bytes → Prop
  | .awaitInitialStatus, frame | .awaitStatus, frame => ∃ status, Status.decode frame = .ok status
  | .awaitCommandAck, frame => Frame.checkReply .commandAck frame = .ok ()
  | .idle, _ | .closed, _ => False

namespace Session

open DomeLink.Action (edges)

variable {s t : Session} {i : SessionInput} {r : Step} {frame : Bytes}

/-! ## Telling of the link -/

/-- **The step tells of the link** what it changes: nothing, or the new `commsOk`. -/
def TellsEdge (s : Session) (r : Step) : Prop :=
  edges r.2 = if r.1.commsOk = s.commsOk then [] else [r.1.commsOk]

theorem edges_commsEdge (s : Session) (ok : Bool) :
    edges (s.commsEdge ok) = if ok = s.commsOk then [] else [ok] := by
  unfold commsEdge
  by_cases h : s.commsOk = ok
  · rw [if_pos h, if_pos h.symm]
    rfl
  · rw [if_neg h, if_neg (Ne.symm h)]
    rfl

theorem edges_handsetEdge (changed : List StatusField) (old new : UInt8) :
    edges (handsetEdge changed old new) = [] := by
  unfold handsetEdge
  split <;> rfl

theorem edges_resolve (s : Session) : edges s.resolve.2 = [] := by
  unfold resolve
  split <;> rfl

theorem commsOk_resolve (s : Session) : s.resolve.1.commsOk = s.commsOk := by
  unfold resolve
  split <;> rfl

theorem tellsEdge_of_nil (h : edges r.2 = []) (hsame : r.1.commsOk = s.commsOk) :
    s.TellsEdge r := by
  rw [TellsEdge, h, if_pos hsame]

theorem tellsEdge_failExchange (s : Session) : s.TellsEdge s.failExchange := by
  have hedges : edges s.failExchange.2 = edges (s.commsEdge false) := by
    rw [failExchange_eq, Action.edges_append, edges_resolve, List.append_nil]
    rfl
  have hfailed : s.failExchange.1.commsOk = false := commsOk_resolve s.failed
  rw [TellsEdge, hedges, edges_commsEdge, hfailed]

theorem tellsEdge_issueCommand (s : Session) : s.TellsEdge s.issueCommand := by
  unfold issueCommand
  split <;> exact tellsEdge_of_nil rfl rfl

theorem tellsEdge_onFrame (s : Session) (frame : Bytes) : s.TellsEdge (s.onFrame frame) := by
  unfold onFrame
  split
  · unfold initialStatus
    split <;> exact tellsEdge_of_nil rfl rfl
  · unfold statusReply
    split
    · exact tellsEdge_failExchange s
    · rename_i status changed _
      refine tellsEdge_of_nil ?_ (commsOk_resolve _)
      dsimp only
      rw [Action.edges_append, edges_resolve, List.append_nil, List.cons_append]
      show edges (handsetEdge changed s.status.handset status.handset ++ _) = []
      rw [Action.edges_append, edges_handsetEdge]
      rfl
  · unfold commandAck
    split
    · exact tellsEdge_failExchange s
    · have hedges : edges (.cancel .response :: s.commsEdge true ++
          s.arm .heartbeat :: s.acknowledged.resolve.2) = edges (s.commsEdge true) := by
        rw [Action.edges_append]
        show edges (s.commsEdge true) ++ edges s.acknowledged.resolve.2 = _
        rw [edges_resolve, List.append_nil]
      have hacked : s.acknowledged.resolve.1.commsOk = true := commsOk_resolve s.acknowledged
      show edges (.cancel .response :: s.commsEdge true ++
        s.arm .heartbeat :: s.acknowledged.resolve.2) = _
      rw [hedges, edges_commsEdge]
      show _ = if s.acknowledged.resolve.1.commsOk = s.commsOk then []
        else [s.acknowledged.resolve.1.commsOk]
      rw [hacked]
  all_goals exact tellsEdge_of_nil rfl rfl

theorem tellsEdge_onTimer (s : Session) (timer : Timer) : s.TellsEdge (s.onTimer timer) := by
  unfold onTimer
  split
  · exact tellsEdge_of_nil rfl rfl
  · cases timer with
    | response =>
      show s.TellsEdge s.onResponseTimeout
      unfold onResponseTimeout
      split
      · exact tellsEdge_of_nil rfl rfl
      · exact tellsEdge_failExchange s
      · exact tellsEdge_failExchange s
      all_goals exact tellsEdge_of_nil rfl rfl
    | statusPoll =>
      show s.TellsEdge s.onStatusPoll
      unfold onStatusPoll
      split <;> exact tellsEdge_of_nil rfl rfl
    | heartbeat => exact tellsEdge_issueCommand s

/-- **Every step tells of the link what it changes.** -/
theorem tellsEdge_step (s : Session) (i : SessionInput) : s.TellsEdge (s.step i) := by
  cases i with
  | frame bytes => exact tellsEdge_onFrame s bytes
  | timer timer => exact tellsEdge_onTimer s timer
  | update changes =>
    cases hc : s.command.changeAll changes with
    | error e =>
      rw [step_update_of_error hc]
      exact tellsEdge_of_nil rfl rfl
    | ok command =>
      rw [step_update_of_ok hc]
      exact tellsEdge_issueCommand { s with command }
  | transmitError =>
    show s.TellsEdge s.onTransmitError
    unfold onTransmitError
    split
    · exact tellsEdge_failExchange s
    · exact tellsEdge_failExchange s
    all_goals exact tellsEdge_of_nil rfl rfl
  | close =>
    show s.TellsEdge s.close
    unfold close
    split <;> exact tellsEdge_of_nil rfl rfl

/-! ## States -/

theorem state_resolve_eq (s : Session) :
    s.resolve.1.state = if s.commandPending then .awaitCommandAck else .idle := by
  unfold resolve
  split <;> rfl

/-- Only closing closes a session. -/
theorem Transition.ne_closed (htr : Transition s i r) (hs : s.state ≠ .closed) (hi : i ≠ .close) :
    r.1.state ≠ .closed := by
  cases htr with
  | ignore | pollLater | beatLater | updateLater => exact hs
  | retry | poll | beat | update => exact nofun
  | updateClosed _ hclosed => exact absurd hclosed hs
  | finish =>
    rw [state_resolve_eq]
    split <;> exact nofun
  | close => exact absurd rfl hi

/-- An established session stays established until it is closed. -/
theorem Transition.established (htr : Transition s i r) (hs : s.state.isEstablished = true)
    (hi : i ≠ .close) : r.1.state.isEstablished = true := by
  have hinitial : s.state ≠ .awaitInitialStatus := fun h => by rw [h] at hs; cases hs
  cases htr with
  | ignore | pollLater | beatLater | updateLater | updateClosed => exact hs
  | retry h => exact absurd h hinitial
  | poll | beat | update => rfl
  | finish =>
    rw [state_resolve_eq]
    split <;> rfl
  | close => exact absurd rfl hi

/-! ## Replies -/

theorem exists_applyChanges (h : ∃ status, Status.decode frame = .ok status) :
    ∃ result, s.status.applyChanges s.rawStatus frame = .ok result := by
  obtain ⟨status, hstatus⟩ := h
  exact ⟨_, by rw [Status.applyChanges, hstatus]; rfl⟩

theorem not_decode_of_refused (h : Frame.Refused frame) (status : Status) :
    Status.decode frame ≠ .ok status := by
  intro hok
  obtain ⟨fault, hfault⟩ := h .status
  rw [(Status.decode_eq_ok_iff.1 hok).1] at hfault
  cases hfault

theorem endsExchange_of_takes (h : s.state.Takes frame) :
    s.endsExchange (.frame frame) = true := by
  cases hs : s.state with
  | awaitInitialStatus =>
    rw [hs] at h
    obtain ⟨status, hstatus⟩ := h
    simp [endsExchange, hs, hstatus, Except.isOk, Except.toBool]
  | awaitStatus | awaitCommandAck => simp [endsExchange, hs, SessionState.canFail]
  | idle | closed =>
    rw [hs] at h
    cases h

/-- **A reply that the session waits for** ends the exchange as it should. -/
theorem Settles.of_takes (ht : s.Settles (.frame frame) t) (h : s.state.Takes frame) :
    (∃ status, t = s.seeded frame status) ∨
      s.state = .awaitStatus ∧ (∃ status, t = s.refreshed frame status) ∨ t = s.acknowledged := by
  cases ht with
  | seeded => exact .inl ⟨_, rfl⟩
  | refreshed hs => exact .inr (.inl ⟨hs, _, rfl⟩)
  | acknowledged => exact .inr (.inr rfl)
  | badStatus hs hf =>
    rw [hs] at h
    obtain ⟨result, hresult⟩ := exists_applyChanges (s := s) h
    rw [hf] at hresult
    cases hresult
  | badAck hs hf =>
    rw [hs] at h
    exact absurd (hf.symm.trans h) nofun

/-- It never makes `commsOk` false. -/
theorem Settles.commsOk_of_takes (ht : s.Settles (.frame frame) t) (h : s.state.Takes frame)
    (hok : s.commsOk = true) : t.commsOk = true := by
  rcases ht.of_takes h with ⟨status, rfl⟩ | ⟨-, status, rfl⟩ | rfl
  · exact hok
  · exact hok
  · rfl

/-- Where every frame is refused, an exchange ends with `commsOk` false. -/
theorem Settles.commsOk_of_refused (ht : s.Settles i t)
    (h : ∀ frame, i = .frame frame → Frame.Refused frame) : t.commsOk = false := by
  cases ht with
  | seeded _ hf => exact absurd hf (not_decode_of_refused (h _ rfl) _)
  | refreshed _ hf =>
    obtain ⟨status, hstatus, -⟩ := bind_eq_ok.1 hf
    exact absurd hstatus (not_decode_of_refused (h _ rfl) _)
  | acknowledged _ hf =>
    obtain ⟨fault, hfault⟩ := h _ rfl .commandAck
    exact absurd (hf.symm.trans hfault) nofun
  | badStatus | badAck | timeout | transmitError => rfl

/-! ## The heartbeat -/

variable {now : Nat} {tm : Timers}

/-- The end of an exchange touches the response timer alone. -/
theorem deadlines_resolve (s : Session) (timer : Timer) (h : timer ≠ .response) :
    (tm.after now s.resolve.2).deadlines.get timer = tm.deadlines.get timer := by
  unfold resolve
  cases timer with
  | response => exact absurd rfl h
  | statusPoll | heartbeat => split <;> rfl

theorem deadlines_failExchange (s : Session) (timer : Timer) (h : timer ≠ .response) :
    (tm.after now s.failExchange.2).deadlines.get timer = tm.deadlines.get timer := by
  rw [failExchange_eq, Timers.after_append, Timers.after_cons, after_commsEdge,
    deadlines_resolve s.failed timer h]
  cases timer with
  | response => exact absurd rfl h
  | statusPoll | heartbeat => rfl

theorem heartbeat_resolve (s : Session) :
    (tm.after now s.resolve.2).deadlines.heartbeat = tm.deadlines.heartbeat :=
  deadlines_resolve s .heartbeat nofun

theorem heartbeat_failExchange (s : Session) :
    (tm.after now s.failExchange.2).deadlines.heartbeat = tm.deadlines.heartbeat :=
  deadlines_failExchange s .heartbeat nofun

/-- The heartbeat is put off, but only as a command goes out, waits, or has been acknowledged. -/
def PutsOff (now : Nat) (tm tm' : Timers) (r : Step) : Prop :=
  (tm'.after now r.2).deadlines.heartbeat = tm.deadlines.heartbeat ∨
    r.1.state = .awaitCommandAck ∨ r.1.commandPending = true ∨ r.1.commsOk = true

theorem putsOff_onFrame (s : Session) (frame : Bytes) : PutsOff now tm tm (s.onFrame frame) := by
  unfold onFrame
  split
  · unfold initialStatus
    split
    · exact .inl rfl
    · exact .inr (.inl rfl)
  · unfold statusReply
    split
    · exact .inl (heartbeat_failExchange s)
    · left
      dsimp only
      rw [Timers.after_append, heartbeat_resolve, List.cons_append, Timers.after_cons,
        Timers.after_append, after_handsetEdge]
      rfl
  · unfold commandAck
    split
    · exact .inl (heartbeat_failExchange s)
    · exact .inr (.inr (.inr (commsOk_resolve s.acknowledged)))
  all_goals exact .inl rfl

theorem putsOff_issueCommand (s : Session) : PutsOff now tm tm s.issueCommand := by
  unfold issueCommand
  split <;> exact .inl rfl

theorem putsOff_onTimer (hs : s.state ≠ .closed) (timer : Timer) :
    PutsOff now tm (tm.expire (.timer timer)) (s.onTimer timer) := by
  unfold onTimer
  rw [if_neg hs]
  cases timer with
  | response =>
    show PutsOff now tm _ s.onResponseTimeout
    unfold onResponseTimeout
    split
    · exact .inl rfl
    · exact .inl (heartbeat_failExchange s)
    · exact .inl (heartbeat_failExchange s)
    all_goals exact .inl rfl
  | statusPoll =>
    show PutsOff now tm _ s.onStatusPoll
    unfold onStatusPoll
    split <;> exact .inl rfl
  | heartbeat =>
    show PutsOff now tm _ s.onHeartbeat
    unfold onHeartbeat issueCommand
    split
    · exact .inr (.inl rfl)
    · exact absurd ‹_› hs
    · exact .inr (.inr (.inl rfl))

/-- **The heartbeat is put off** only as a command goes out, waits, or has been acknowledged. -/
theorem putsOff_step (hs : s.state ≠ .closed) (hi : i ≠ .close) :
    PutsOff now tm (tm.expire i) (s.step i) := by
  cases i with
  | frame bytes => exact putsOff_onFrame s bytes
  | timer timer => exact putsOff_onTimer hs timer
  | update changes =>
    cases hc : s.command.changeAll changes with
    | error e =>
      rw [step_update_of_error hc]
      exact .inl rfl
    | ok command =>
      rw [step_update_of_ok hc]
      exact putsOff_issueCommand { s with command }
  | transmitError =>
    show PutsOff now tm _ s.onTransmitError
    unfold onTransmitError
    split
    · exact .inl (heartbeat_failExchange s)
    · exact .inl (heartbeat_failExchange s)
    all_goals exact .inl rfl
  | close => exact absurd rfl hi

end Session

end DomeLink
