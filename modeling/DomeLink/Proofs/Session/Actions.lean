import DomeLink.Proofs.Session.Transition

/-!
# What a session wants done

Besides telling its clients of a new status, a session does only what any input can bring with it:
it sends frames, starts each timer with the period of that timer, stops timers, and tells of the
controller and of the handset (`Action.Routine`).

* `routine_failExchange`, `routine_onTimer`, ..: parts of steps that are routine alone.
* `routine_or_statusUpdated`: so is every step, but for a new status.
-/

namespace DomeLink

/-- An action that any input can bring with it. -/
inductive Action.Routine (timing : Timing) : Action → Prop
  | transmit (frame : Bytes) : Routine timing (.transmit frame)
  | arm (timer : Timer) : Routine timing (.arm timer (timing.period timer))
  | cancel (timer : Timer) : Routine timing (.cancel timer)
  | commsChanged (ok : Bool) : Routine timing (.notify (.commsChanged ok))
  | handsetChanged (old new : UInt8) : Routine timing (.notify (.handsetChanged old new))

namespace Session

/-- The actions are routine. -/
def Routine (timing : Timing) (actions : List Action) : Prop := ∀ a ∈ actions, a.Routine timing

variable {timing : Timing} {a : Action} {as bs : List Action}

theorem routine_nil : Routine timing [] := nofun

theorem Routine.cons (ha : a.Routine timing) (h : Routine timing as) : Routine timing (a :: as) :=
  List.forall_mem_cons.2 ⟨ha, h⟩

theorem Routine.append (h : Routine timing as) (h' : Routine timing bs) :
    Routine timing (as ++ bs) := List.forall_mem_append.2 ⟨h, h'⟩

/-! ## Parts of a step -/

theorem routine_commsEdge (s : Session) (ok : Bool) : Routine timing (s.commsEdge ok) := by
  unfold commsEdge
  split
  · exact routine_nil
  · exact routine_nil.cons (.commsChanged ok)

theorem routine_handsetEdge (changed : List StatusField) (old new : UInt8) :
    Routine timing (handsetEdge changed old new) := by
  unfold handsetEdge
  split
  · exact routine_nil.cons (.handsetChanged old new)
  · exact routine_nil

theorem routine_requestStatus (s : Session) (awaiting : SessionState) :
    Routine s.timing (s.requestStatus awaiting).2 :=
  (routine_nil.cons (.transmit _)).cons (.arm .response)

theorem routine_sendCommand (s : Session) : Routine s.timing s.sendCommand.2 :=
  (routine_nil.cons (.transmit _)).cons (.arm .response)

theorem routine_resolve (s : Session) : Routine s.timing s.resolve.2 := by
  unfold resolve
  split
  · exact routine_sendCommand s
  · exact routine_nil

theorem routine_issueCommand (s : Session) : Routine s.timing s.issueCommand.2 := by
  unfold issueCommand
  split
  · exact routine_sendCommand s
  all_goals exact routine_nil

theorem routine_failExchange (s : Session) : Routine s.timing s.failExchange.2 :=
  ((routine_commsEdge s false).append (routine_resolve s.failed)).cons (.cancel .response)

theorem routine_commandAck (s : Session) (frame : Bytes) :
    Routine s.timing (s.commandAck frame).2 := by
  unfold commandAck
  split
  · exact routine_failExchange s
  · exact ((routine_commsEdge s true).append
      ((routine_resolve s.acknowledged).cons (.arm .heartbeat))).cons (.cancel .response)

/-! ## What happens to a session -/

theorem routine_onTimer (s : Session) (timer : Timer) : Routine s.timing (s.onTimer timer).2 := by
  unfold onTimer
  split
  · exact routine_nil
  · cases timer with
    | response =>
      show Routine s.timing s.onResponseTimeout.2
      unfold onResponseTimeout
      split
      · exact routine_requestStatus s _
      · exact routine_failExchange s
      · exact routine_failExchange s
      all_goals exact routine_nil
    | statusPoll =>
      show Routine s.timing s.onStatusPoll.2
      unfold onStatusPoll
      split
      · exact (routine_requestStatus s _).cons (.arm .statusPoll)
      · exact routine_nil.cons (.arm .statusPoll)
    | heartbeat => exact (routine_issueCommand s).cons (.arm .heartbeat)

theorem routine_update (s : Session) (changes : List Change) :
    Routine s.timing (s.step (.update changes)).2 := by
  cases hc : s.command.changeAll changes with
  | error e =>
    rw [step_update_of_error hc]
    exact routine_nil
  | ok command =>
    rw [step_update_of_ok hc]
    exact routine_issueCommand { s with command }

theorem routine_onTransmitError (s : Session) : Routine s.timing s.onTransmitError.2 := by
  unfold onTransmitError
  split
  · exact routine_failExchange s
  · exact routine_failExchange s
  all_goals exact routine_nil

theorem routine_close (s : Session) : Routine s.timing s.close.2 := by
  unfold close
  split
  · exact routine_nil
  · exact List.forall_mem_map.2 fun timer _ => .cancel timer

/-- Only a frame can bring more than what is routine. -/
theorem routine_step_of_not_frame {i : SessionInput} (s : Session)
    (h : ∀ frame, i ≠ .frame frame) : Routine s.timing (s.step i).2 := by
  cases i with
  | frame bytes => exact absurd rfl (h bytes)
  | timer timer => exact routine_onTimer s timer
  | update changes => exact routine_update s changes
  | transmitError => exact routine_onTransmitError s
  | close => exact routine_close s

/-- What follows when a reply has been accepted: the status is told of, the rest is routine. -/
theorem routine_or_statusUpdated_of_append (h : Routine timing as) (h' : Routine timing bs) :
    ∀ a ∈ as ++ .notify .statusUpdated :: bs, a.Routine timing ∨ a = .notify .statusUpdated := by
  intro a ha
  rcases List.mem_append.1 ha with ha | ha
  · exact .inl (h a ha)
  · rcases List.mem_cons.1 ha with rfl | ha
    · exact .inr rfl
    · exact .inl (h' a ha)

/-- **All that a step brings with it is routine**, but for telling of a new status. -/
theorem routine_or_statusUpdated (s : Session) (i : SessionInput) :
    ∀ a ∈ (s.step i).2, a.Routine s.timing ∨ a = .notify .statusUpdated := by
  cases i with
  | frame bytes =>
    show ∀ a ∈ (s.onFrame bytes).2, _
    unfold onFrame
    split
    · unfold initialStatus
      split
      · exact fun a ha => absurd ha List.not_mem_nil
      · rename_i status _
        have hsent := routine_sendCommand
          { s with status, rawStatus := bytes, command := s.command.seed status }
        have hbefore : Routine s.timing [.cancel .response] := routine_nil.cons (.cancel _)
        have hbehind := (hsent.cons (.arm .heartbeat)).cons (.arm .statusPoll)
        exact routine_or_statusUpdated_of_append hbefore hbehind
    · unfold statusReply
      split
      · exact fun a ha => .inl (routine_failExchange s a ha)
      · rename_i status changed _
        have hbehind := (routine_resolve (s.refreshed bytes status)).cons (.arm .statusPoll)
        dsimp only
        rw [List.append_assoc]
        exact routine_or_statusUpdated_of_append
          ((routine_handsetEdge changed _ _).cons (.cancel .response)) hbehind
    · exact fun a ha => .inl (routine_commandAck s bytes a ha)
    all_goals exact fun a ha => absurd ha List.not_mem_nil
  | timer | update | transmitError | close =>
    exact fun a ha => .inl (routine_step_of_not_frame s (by rintro _ ⟨⟩) a ha)

end Session

end DomeLink
