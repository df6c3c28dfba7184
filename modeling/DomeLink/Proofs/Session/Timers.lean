import DomeLink.Connection.Basic
import DomeLink.Proofs.Session.Actions

/-!
# The timers that a session runs

`Timers` is what a session can see of time: when its timers are due, and when it last asked for
anything. Carrying out actions at one instant changes both (`Timers.after`).

After every step the timers fit the state of the session (`Fits`). The response timer runs exactly
while a request is outstanding, from the time of that request on, and the other two run exactly
while the session is established, that is from the initial status on and until it is closed.

* `Fits.step`: a step keeps the timers fitting. A timer that has run out is off before the step.
* `paced_step`: a step starts a timer with its period alone.
* `Coherent.step`: both together, for timers that are not due before a given time.
-/

namespace DomeLink

/-- The initial status has been taken in, and the session is not closed. -/
def SessionState.isEstablished : SessionState → Bool
  | .idle | .awaitStatus | .awaitCommandAck => true
  | .awaitInitialStatus | .closed => false

/-- The deadlines of a session, and the time of its latest attempt to send a frame. -/
structure Timers where
  deadlines : Deadlines := {}
  asked : Option Nat := none

namespace Timers

/-- What an action that is carried out at the given time makes of the timers. -/
def apply (now : Nat) (t : Timers) : Action → Timers
  | .arm timer ms => { t with deadlines := t.deadlines.set timer (some (now + ms)) }
  | .cancel timer => { t with deadlines := t.deadlines.set timer none }
  | .transmit _ => { t with asked := some now }
  | .notify _ => t

/-- What actions that are carried out at the given time make of the timers. -/
def after (now : Nat) (t : Timers) (actions : List Action) : Timers := actions.foldl (apply now) t

/-- A timer has run out, or the input is not about timers. -/
def expire (t : Timers) : SessionInput → Timers
  | .timer timer => { t with deadlines := t.deadlines.set timer none }
  | .frame _ | .update _ | .transmitError | .close => t

/-- The two timers of an established session run. -/
structure Polls (t : Timers) : Prop where
  statusPoll : t.deadlines.statusPoll.isSome = true
  heartbeat : t.deadlines.heartbeat.isSome = true

variable {now : Nat} {t : Timers}

@[simp] theorem after_nil : t.after now [] = t := rfl

@[simp] theorem after_cons (a : Action) (as : List Action) :
    t.after now (a :: as) = (t.apply now a).after now as := rfl

theorem after_append (as bs : List Action) :
    t.after now (as ++ bs) = (t.after now as).after now bs := List.foldl_append ..

end Timers

namespace Session

variable {s : Session} {t : Timers} {now : Nat}

@[simp] theorem after_commsEdge (s : Session) (ok : Bool) : t.after now (s.commsEdge ok) = t := by
  unfold commsEdge
  split <;> rfl

@[simp] theorem after_handsetEdge (changed : List StatusField) (old new : UInt8) :
    t.after now (handsetEdge changed old new) = t := by
  unfold handsetEdge
  split <;> rfl

/-- **The timers fit the state** of the session. -/
structure Fits (s : Session) (t : Timers) : Prop where
  /-- The response timer runs exactly while a request is outstanding, and since that request. -/
  response : t.deadlines.response =
    if s.state.isAwaiting then t.asked.map (· + s.timing.period .response) else none
  asked : s.state.isAwaiting = true → t.asked.isSome = true
  statusPoll : t.deadlines.statusPoll.isSome = s.state.isEstablished
  heartbeat : t.deadlines.heartbeat.isSome = s.state.isEstablished

theorem Fits.polls (h : s.Fits t) (hs : s.state.isEstablished = true) : t.Polls where
  statusPoll := h.statusPoll.trans hs
  heartbeat := h.heartbeat.trans hs

theorem Fits.response_of_awaiting (h : s.Fits t) (hs : s.state.isAwaiting = true) :
    ∃ time, t.asked = some time ∧
      t.deadlines.response = some (time + s.timing.period .response) := by
  obtain ⟨time, htime⟩ := Option.isSome_iff_exists.1 (h.asked hs)
  refine ⟨time, htime, ?_⟩
  rw [h.response, if_pos hs, htime]
  rfl

theorem Fits.response_isSome_iff (h : s.Fits t) :
    t.deadlines.response.isSome = true ↔ s.state.isAwaiting = true := by
  constructor
  · intro hdue
    rw [h.response] at hdue
    split at hdue
    · assumption
    · cases hdue
  · intro hs
    obtain ⟨time, -, hresponse⟩ := h.response_of_awaiting hs
    exact Option.isSome_of_eq_some hresponse

/-- The timers of a closed session are off. -/
theorem Fits.deadlines_of_closed (h : s.Fits t) (hs : s.state = .closed) : t.deadlines = {} := by
  have hresponse : t.deadlines.response = none := by rw [h.response, hs]; rfl
  have hpoll : t.deadlines.statusPoll = none :=
    Option.not_isSome_iff_eq_none.1 (by rw [h.statusPoll, hs]; decide)
  have hbeat : t.deadlines.heartbeat = none :=
    Option.not_isSome_iff_eq_none.1 (by rw [h.heartbeat, hs]; decide)
  calc
    t.deadlines = ⟨t.deadlines.response, t.deadlines.statusPoll, t.deadlines.heartbeat⟩ := rfl
    _ = {} := by rw [hresponse, hpoll, hbeat]

/-- A session that is not closed waits for some timer. -/
theorem Fits.exists_armed (h : s.Fits t) (hs : s.state ≠ .closed) :
    ∃ timer, (t.deadlines.get timer).isSome = true := by
  by_cases hawaiting : s.state.isAwaiting = true
  · exact ⟨.response, h.response_isSome_iff.2 hawaiting⟩
  · refine ⟨.statusPoll, h.statusPoll.trans ?_⟩
    cases hstate : s.state with
    | idle | awaitStatus | awaitCommandAck => rfl
    | awaitInitialStatus => exact absurd (by rw [hstate]; rfl) hawaiting
    | closed => exact absurd hstate hs

/-! ## Parts of a step -/

theorem fits_sendCommand (h : t.Polls) : s.sendCommand.1.Fits (t.after now s.sendCommand.2) where
  response := rfl
  asked := fun _ => rfl
  statusPoll := h.statusPoll
  heartbeat := h.heartbeat

theorem fits_resolve (h : t.Polls) (hr : t.deadlines.response = none) :
    s.resolve.1.Fits (t.after now s.resolve.2) := by
  unfold resolve
  split
  · exact fits_sendCommand h
  · exact ⟨hr, nofun, h.statusPoll, h.heartbeat⟩

theorem fits_failExchange (h : t.Polls) :
    s.failExchange.1.Fits (t.after now s.failExchange.2) := by
  rw [failExchange_eq, Timers.after_append, Timers.after_cons, after_commsEdge]
  exact fits_resolve ⟨h.statusPoll, h.heartbeat⟩ rfl

theorem fits_initialStatus (h : s.Fits t) (frame : Bytes) :
    (s.initialStatus frame).1.Fits (t.after now (s.initialStatus frame).2) := by
  unfold initialStatus
  split
  · exact h
  · rw [Timers.after_append]
    exact fits_sendCommand ⟨rfl, rfl⟩

theorem fits_statusReply (h : t.Polls) (frame : Bytes) :
    (s.statusReply frame).1.Fits (t.after now (s.statusReply frame).2) := by
  unfold statusReply
  split
  · exact fits_failExchange h
  · rw [Timers.after_append, List.cons_append, Timers.after_cons, Timers.after_append,
      after_handsetEdge]
    exact fits_resolve ⟨rfl, h.heartbeat⟩ rfl

theorem fits_commandAck (h : t.Polls) (frame : Bytes) :
    (s.commandAck frame).1.Fits (t.after now (s.commandAck frame).2) := by
  unfold commandAck
  split
  · exact fits_failExchange h
  · show s.acknowledged.resolve.1.Fits (t.after now
      ((.cancel .response :: s.commsEdge true) ++ s.arm .heartbeat :: s.acknowledged.resolve.2))
    rw [Timers.after_append, Timers.after_cons (.cancel _), after_commsEdge, Timers.after_cons]
    exact fits_resolve ⟨h.statusPoll, rfl⟩ rfl

theorem fits_onFrame (h : s.Fits t) (frame : Bytes) :
    (s.onFrame frame).1.Fits (t.after now (s.onFrame frame).2) := by
  unfold onFrame
  split
  · exact fits_initialStatus h frame
  · exact fits_statusReply (h.polls (by rw [‹s.state = _›]; rfl)) frame
  · exact fits_commandAck (h.polls (by rw [‹s.state = _›]; rfl)) frame
  all_goals exact h

theorem fits_issueCommand (h : s.Fits t) :
    s.issueCommand.1.Fits (t.after now s.issueCommand.2) := by
  unfold issueCommand
  split
  · exact fits_sendCommand (h.polls (by rw [‹s.state = _›]; rfl))
  · exact h
  · exact ⟨h.response, h.asked, h.statusPoll, h.heartbeat⟩

/-! ## Timers that have run out -/

theorem fits_onResponseTimeout (h : s.Fits t) (hs : s.state.isAwaiting = true) :
    s.onResponseTimeout.1.Fits
      ((t.expire (.timer .response)).after now s.onResponseTimeout.2) := by
  unfold onResponseTimeout
  split
  · rename_i hstate
    have hoff : s.state.isEstablished = false := by rw [hstate]; rfl
    exact ⟨rfl, fun _ => rfl, h.statusPoll.trans hoff, h.heartbeat.trans hoff⟩
  · have hpolls := h.polls (by rw [‹s.state = _›]; rfl)
    exact fits_failExchange ⟨hpolls.statusPoll, hpolls.heartbeat⟩
  · have hpolls := h.polls (by rw [‹s.state = _›]; rfl)
    exact fits_failExchange ⟨hpolls.statusPoll, hpolls.heartbeat⟩
  all_goals
    rw [‹s.state = _›] at hs
    cases hs

theorem fits_onStatusPoll (h : s.Fits t) (hs : s.state.isEstablished = true) :
    s.onStatusPoll.1.Fits ((t.expire (.timer .statusPoll)).after now s.onStatusPoll.2) := by
  unfold onStatusPoll
  split
  · exact ⟨rfl, fun _ => rfl, rfl, (h.polls hs).heartbeat⟩
  · exact ⟨h.response, h.asked, hs.symm, h.heartbeat⟩

theorem fits_onHeartbeat (h : s.Fits t) (hs : s.state.isEstablished = true) :
    s.onHeartbeat.1.Fits ((t.expire (.timer .heartbeat)).after now s.onHeartbeat.2) :=
  fits_issueCommand ⟨h.response, h.asked, h.statusPoll, hs.symm⟩

theorem fits_onTimer (h : s.Fits t) {timer : Timer}
    (hdue : (t.deadlines.get timer).isSome = true) :
    (s.onTimer timer).1.Fits ((t.expire (.timer timer)).after now (s.onTimer timer).2) := by
  have hclosed : s.state ≠ .closed := by
    intro hs
    rw [h.deadlines_of_closed hs] at hdue
    cases timer <;> cases hdue
  unfold onTimer
  rw [if_neg hclosed]
  cases timer with
  | response => exact fits_onResponseTimeout h (h.response_isSome_iff.1 hdue)
  | statusPoll => exact fits_onStatusPoll h (h.statusPoll.symm.trans hdue)
  | heartbeat => exact fits_onHeartbeat h (h.heartbeat.symm.trans hdue)

/-! ## Whole steps -/

theorem fits_onTransmitError (h : s.Fits t) :
    s.onTransmitError.1.Fits (t.after now s.onTransmitError.2) := by
  unfold onTransmitError
  split
  · exact fits_failExchange (h.polls (by rw [‹s.state = _›]; rfl))
  · exact fits_failExchange (h.polls (by rw [‹s.state = _›]; rfl))
  all_goals exact h

theorem fits_close (h : s.Fits t) : s.close.1.Fits (t.after now s.close.2) := by
  unfold close
  split
  · exact h
  · exact ⟨rfl, nofun, rfl, rfl⟩

/-- **Every step keeps the timers fitting**, if a timer runs out only when it runs. -/
theorem Fits.step (h : s.Fits t) (i : SessionInput)
    (hdue : ∀ timer, i = .timer timer → (t.deadlines.get timer).isSome = true) :
    (s.step i).1.Fits ((t.expire i).after now (s.step i).2) := by
  cases i with
  | frame bytes => exact fits_onFrame h bytes
  | timer timer => exact fits_onTimer h (hdue timer rfl)
  | update changes =>
    cases hc : s.command.changeAll changes with
    | error e =>
      rw [step_update_of_error hc]
      exact h
    | ok command =>
      rw [step_update_of_ok hc]
      exact fits_issueCommand ⟨h.response, h.asked, h.statusPoll, h.heartbeat⟩
  | transmitError => exact fits_onTransmitError h
  | close => exact fits_close h

/-- The timers fit once the opening has been carried out. -/
theorem fits_opened (timing : Timing) :
    (opened timing).1.Fits (({} : Timers).after now (opened timing).2) :=
  ⟨rfl, fun _ => rfl, rfl, rfl⟩

/-! ## Periods -/

/-- Each timer is started with its period alone. -/
def Paced (timing : Timing) (actions : List Action) : Prop :=
  ∀ timer ms, .arm timer ms ∈ actions → ms = timing.period timer

variable {timing : Timing} {a : Action} {as : List Action}

theorem paced_cons :
    Paced timing (a :: as) ↔
      (∀ timer ms, a = .arm timer ms → ms = timing.period timer) ∧ Paced timing as := by
  simp only [Paced, List.mem_cons, or_imp, forall_and, eq_comm]

theorem Routine.paced (h : Routine timing as) : Paced timing as := by
  intro timer ms hmem
  cases h _ hmem
  rfl

theorem paced_step (s : Session) (i : SessionInput) : Paced s.timing (s.step i).2 := by
  intro timer ms hmem
  rcases routine_or_statusUpdated s i _ hmem with hroutine | heq
  · cases hroutine
    rfl
  · cases heq

end Session

/-! ## Deadlines to come -/

namespace Timers

theorem get_set (d : Deadlines) (timer timer' : Timer) (due : Option Nat) :
    (d.set timer due).get timer' = if timer' = timer then due else d.get timer' := by
  cases timer <;> cases timer' <;> rfl

/-- Each timer that runs is due no earlier than the time given for it. -/
def NotBefore (low : Timer → Nat) (t : Timers) : Prop :=
  ∀ timer due, t.deadlines.get timer = some due → low timer ≤ due

variable {t : Timers} {low low' : Timer → Nat} {now : Nat} {timing : Timing}
  {actions : List Action}

theorem NotBefore.set (h : t.NotBefore low) (timer : Timer) {due : Option Nat}
    (hdue : ∀ time, due = some time → low timer ≤ time) :
    NotBefore low { t with deadlines := t.deadlines.set timer due } := by
  intro timer' time hget
  rw [get_set] at hget
  split at hget
  · rename_i htimer
    rw [htimer]
    exact hdue time hget
  · exact h timer' time hget

/-- A timer that has run out is off, so any time can be given for it. -/
theorem NotBefore.expire (h : t.NotBefore low) {i : SessionInput}
    (hlow : ∀ timer, i ≠ .timer timer → low' timer ≤ low timer) :
    (t.expire i).NotBefore low' := by
  intro timer due hget
  cases i with
  | timer timer' =>
    rw [Timers.expire, get_set] at hget
    split at hget
    · cases hget
    · rename_i hne
      refine Nat.le_trans (hlow timer ?_) (h timer due hget)
      rintro ⟨⟩
      exact hne rfl
  | _ => exact Nat.le_trans (hlow timer nofun) (h timer due hget)

/-- Timers that are started with their periods are due once those are over. -/
theorem NotBefore.after (h : t.NotBefore low) (hp : Session.Paced timing actions)
    (hlow : ∀ timer, low timer ≤ now + timing.period timer) :
    (t.after now actions).NotBefore low := by
  induction actions generalizing t with
  | nil => exact h
  | cons a as ih =>
    rw [Session.paced_cons] at hp
    refine ih ?_ hp.2
    cases a with
    | transmit | notify => exact h
    | cancel timer => exact h.set timer nofun
    | arm timer ms =>
      refine h.set timer fun time htime => ?_
      rw [← Option.some.inj htime, hp.1 timer ms rfl]
      exact hlow timer

end Timers

namespace Session

variable {s : Session} {t : Timers} {low low' : Timer → Nat} {now : Nat} {timing : Timing}

theorem timing_step (s : Session) (i : SessionInput) : (s.step i).1.timing = s.timing := by
  have htr := s.step_transition i
  generalize s.step i = r at htr ⊢
  cases htr with
  | finish ht => exact (timing_resolve _).trans ht.timing
  | _ => rfl

/-- A closed session stays closed. -/
theorem state_step_of_closed (h : s.state = .closed) (i : SessionInput) :
    (s.step i).1.state = .closed := by
  have htr := s.step_transition i
  generalize s.step i = r at htr ⊢
  cases htr with
  | ignore | pollLater | updateClosed => exact h
  | close => rfl
  | retry hs | poll hs | beat hs | update _ hs => cases h.symm.trans hs
  | beatLater hs | updateLater _ hs =>
    rw [h] at hs
    cases hs
  | finish ht =>
    have hs := ht.isAwaiting
    rw [h] at hs
    cases hs

theorem state_run_of_closed (h : s.state = .closed) (inputs : List SessionInput) :
    (s.run inputs).state = .closed := by
  induction inputs generalizing s with
  | nil => exact h
  | cons i is ih => exact ih (state_step_of_closed h i)

theorem state_close (s : Session) : s.close.1.state = .closed := by
  unfold close
  split
  · assumption
  · rfl

/-- The session has the given periods, its timers fit its state, and each is due no earlier than the
time given for it. -/
structure Coherent (timing : Timing) (low : Timer → Nat) (s : Session) (t : Timers) : Prop where
  timing : s.timing = timing
  fits : s.Fits t
  notBefore : t.NotBefore low

/-- **Every step keeps the timers coherent**, if a timer runs out only when it runs. -/
theorem Coherent.step (h : Coherent timing low s t) (i : SessionInput)
    (hdue : ∀ timer, i = .timer timer → (t.deadlines.get timer).isSome = true)
    (hraise : ∀ timer, i ≠ .timer timer → low' timer ≤ low timer)
    (hlow : ∀ timer, low' timer ≤ now + timing.period timer) :
    Coherent timing low' (s.step i).1 ((t.expire i).after now (s.step i).2) where
  timing := (timing_step s i).trans h.timing
  fits := h.fits.step i hdue
  notBefore := (h.notBefore.expire hraise).after (h.timing ▸ paced_step s i) hlow

theorem coherent_opened (hlow : ∀ timer, low timer ≤ now + timing.period timer) :
    Coherent timing low (opened timing).1 (({} : Timers).after now (opened timing).2) where
  timing := rfl
  fits := fits_opened timing
  notBefore := by
    have hnone : Timers.NotBefore low {} := by
      intro timer due h
      cases timer <;> cases h
    exact hnone.after (routine_requestStatus { timing } _).paced hlow

end Session

end DomeLink
