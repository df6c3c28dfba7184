import DomeLink.Proofs.Session.Comms

/-!
# The course of exchanges

A session that is not closed goes from one exchange to the next. `Course` tells what a step is to
that: the exchange or the rest lasts, a request is made from rest, the initial status is asked for
again, or the exchange ends, perhaps with a new request. It also tells which timers the step leaves
alone, so that a bound on a deadline can be carried along a run.

`Transition.course`: every step that does not close the session has such a course, if the timers
fit after it.
-/

namespace DomeLink

namespace Timers

variable {t : Timers} {i : SessionInput} {now : Nat} {timing : Timing} {actions : List Action}

theorem deadlines_expire (timer : Timer) (h : i ≠ .timer timer) :
    (t.expire i).deadlines.get timer = t.deadlines.get timer := by
  cases i with
  | timer other =>
    rw [expire, get_set, if_neg]
    rintro rfl
    exact h rfl
  | _ => rfl

/-- No timer is due later than its period from now. -/
def InPeriod (timing : Timing) (now : Nat) (d : Deadlines) : Prop :=
  ∀ timer due, d.get timer = some due → due ≤ now + timing.period timer

theorem InPeriod.set {d : Deadlines} (h : InPeriod timing now d) (timer : Timer) {due : Option Nat}
    (hdue : ∀ time, due = some time → time ≤ now + timing.period timer) :
    InPeriod timing now (d.set timer due) := by
  intro other time hget
  rw [get_set] at hget
  split at hget
  · rename_i hother
    rw [hother]
    exact hdue time hget
  · exact h other time hget

theorem InPeriod.expire (h : InPeriod timing now t.deadlines) (i : SessionInput) :
    InPeriod timing now (t.expire i).deadlines := by
  cases i with
  | timer timer => exact h.set timer nofun
  | _ => exact h

/-- Timers that are started with their periods are not due later than that. -/
theorem InPeriod.after (h : InPeriod timing now t.deadlines)
    (hpaced : Session.Paced timing actions) :
    InPeriod timing now (t.after now actions).deadlines := by
  induction actions generalizing t with
  | nil => exact h
  | cons a as ih =>
    rw [Session.paced_cons] at hpaced
    refine ih ?_ hpaced.2
    cases a with
    | transmit | notify => exact h
    | cancel timer => exact h.set timer nofun
    | arm timer ms =>
      refine h.set timer fun time htime => ?_
      exact Nat.le_of_eq (by rw [← Option.some.inj htime, hpaced.1 timer ms rfl])

end Timers

theorem SessionState.isEstablished_of_isAwaiting {state : SessionState}
    (h : state.isAwaiting = true) (hinitial : state ≠ .awaitInitialStatus) :
    state.isEstablished = true := by
  cases state with
  | awaitInitialStatus => exact absurd rfl hinitial
  | awaitStatus | awaitCommandAck => rfl
  | idle | closed => cases h

namespace Session

variable {now : Nat} {tm : Timers} {before after : Deadlines} {s : Session} {i : SessionInput}
  {r : Step}

/-- The step makes a request. -/
def Requests (s : Session) (r : Step) : Prop := ∃ before frame, Asks s.timing r before frame

/-- The reply to a request is awaited for one period. -/
theorem Requests.response (h : s.Requests r) :
    (tm.after now r.2).deadlines.response = some (now + s.timing.period .response) := by
  obtain ⟨before, frame, hasks⟩ := h
  rw [hasks.actions, Timers.after_append]
  rfl

theorem Requests.not_quiet (h : s.Requests r) : Action.sends r.2 ≠ 0 := by
  obtain ⟨before, frame, hasks⟩ := h
  rw [hasks.sends]
  exact Nat.one_ne_zero

theorem Requests.isAwaiting (h : s.Requests r) : r.1.state.isAwaiting = true := by
  obtain ⟨before, frame, hasks⟩ := h
  exact hasks.awaiting

/-- **The course that a step takes**, for a session that stays open, with its deadlines before and
after the step. -/
inductive Course (before after : Deadlines) (s : Session) (i : SessionInput) (r : Step) : Prop
  /-- The exchange lasts, or the rest. -/
  | lasts (hstate : r.1.state = s.state) (hcomms : r.1.commsOk = s.commsOk)
      (hpending : s.commandPending = true → r.1.commandPending = true)
      (hsends : Action.sends r.2 = 0) (hends : s.endsExchange i = false)
      (hresponse : s.state.isAwaiting = true → after.response = before.response)
      (hpoll : s.state = .idle → after.statusPoll = before.statusPoll)
      (hheartbeat : s.state.isEstablished = true →
        after.heartbeat = before.heartbeat ∨ r.1.commandPending = true)
  /-- A request is made from rest. -/
  | begins (hs : s.state = .idle) (hcomms : r.1.commsOk = s.commsOk) (hrequests : s.Requests r)
  /-- The initial status is asked for again. -/
  | retries (hs : s.state = .awaitInitialStatus) (hi : i = .timer .response)
      (hstate : r.1.state = .awaitInitialStatus) (hcomms : r.1.commsOk = s.commsOk)
      (hrequests : s.Requests r)
  /-- The exchange ends, and another one may begin. -/
  | ends {t : Session} (ht : s.Settles i t) (hr : r.1 = t.resolve.1)
      (hrequests : r.1.state = .idle ∧ Action.sends r.2 = 0 ∨ s.Requests r)

/-- **A step that does not close the session takes its course.** -/
theorem Transition.course (htr : Transition s i r) (hs : s.state ≠ .closed) (hi : i ≠ .close)
    (hfits : r.1.Fits ((tm.expire i).after now r.2)) :
    Course tm.deadlines ((tm.expire i).after now r.2).deadlines s i r := by
  have hrequests := htr.asks
  cases htr with
  | ignore hends =>
    -- nothing is done, so a timer that the state needs cannot have run out
    refine .lasts rfl rfl id rfl hends (fun hawaiting => ?_) (fun hidle => ?_)
      fun hestablished => ?_
    · refine Timers.deadlines_expire .response fun heq => ?_
      subst heq
      exact absurd (hfits.response_isSome_iff.2 hawaiting) nofun
    · refine Timers.deadlines_expire .statusPoll fun heq => ?_
      subst heq
      have hsome := hfits.statusPoll
      rw [hidle] at hsome
      cases hsome
    · refine .inl (Timers.deadlines_expire .heartbeat fun heq => ?_)
      subst heq
      exact absurd (hfits.heartbeat.trans hestablished) nofun
  | retry h => exact .retries h rfl rfl rfl ⟨_, _, asks_requestStatus (.inl rfl)⟩
  | poll h =>
    exact .begins h rfl ⟨_, _, (asks_requestStatus (.inr rfl)).prepend [s.arm .statusPoll] rfl⟩
  | pollLater h =>
    exact .lasts rfl rfl id rfl rfl (fun _ => rfl) (fun hidle => absurd hidle h) fun _ => .inl rfl
  | beat h => exact .begins h rfl ⟨_, _, (asks_sendCommand s).prepend [s.arm .heartbeat] rfl⟩
  | beatLater h =>
    exact .lasts rfl rfl (fun _ => rfl) rfl rfl (fun _ => rfl) (fun _ => rfl) fun _ => .inr rfl
  | @update _ c _ h => exact .begins h rfl ⟨_, _, asks_sendCommand { s with command := c }⟩
  | updateLater _ h =>
    exact .lasts rfl rfl (fun _ => rfl) rfl rfl (fun _ => rfl) (fun _ => rfl) fun _ => .inr rfl
  | updateClosed _ h => exact absurd h hs
  | @finish _ t before ht _ hsends =>
    refine .ends ht rfl ?_
    rcases hrequests with hquiet | ⟨before, frame, hasks, -⟩
    · rw [Action.sends_append, sends_resolve, hsends, Nat.zero_add] at hquiet
      left
      cases hp : t.commandPending with
      | true =>
        rw [hp] at hquiet
        cases hquiet
      | false =>
        rw [resolve_of_not_pending hp]
        exact ⟨rfl, by rw [List.append_nil, hsends]⟩
    · exact .inr ⟨before, frame, hasks⟩
  | close => exact absurd rfl hi

/-- A step sends nothing, or it makes a request: from rest, as the time for the initial status has
run out, or as the exchange ends. -/
theorem Course.sends (h : Course before after s i r) : Action.sends r.2 = 0 ∨ s.Requests r ∧
    (s.state = .idle ∨ i = .timer .response ∨ s.endsExchange i = true) := by
  cases h with
  | lasts _ _ _ hsends => exact .inl hsends
  | begins hs _ hrequests => exact .inr ⟨hrequests, .inl hs⟩
  | retries _ hi _ _ hrequests => exact .inr ⟨hrequests, .inr (.inl hi)⟩
  | ends ht _ hrequests =>
    rcases hrequests with ⟨-, hsends⟩ | hrequests
    · exact .inl hsends
    · exact .inr ⟨hrequests, .inr (.inr ht.endsExchange)⟩

/-- A session that waits after a step has waited before, for the same reply, or makes a request. -/
theorem Course.requests_of_isAwaiting (h : Course before after s i r)
    (hawaiting : r.1.state.isAwaiting = true) :
    s.state.isAwaiting = true ∧ Action.sends r.2 = 0 ∧ s.endsExchange i = false ∨
      s.Requests r := by
  cases h with
  | lasts hstate _ _ hsends hends => exact .inl ⟨hstate ▸ hawaiting, hsends, hends⟩
  | begins _ _ hrequests | retries _ _ _ _ hrequests => exact .inr hrequests
  | ends _ _ hrequests =>
    rcases hrequests with ⟨hidle, -⟩ | hrequests
    · rw [hidle] at hawaiting
      cases hawaiting
    · exact .inr hrequests

/-- Only a frame ends the exchange that the initial status is awaited in. -/
theorem Settles.ne_awaitInitialStatus {t : Session} (ht : s.Settles i t)
    (hi : ∀ frame, i ≠ .frame frame) : s.state ≠ .awaitInitialStatus := by
  cases ht with
  | timeout hs | transmitError hs =>
    intro hinitial
    rw [hinitial] at hs
    cases hs
  | _ => exact absurd rfl (hi _)

/-! ## Good and bad replies -/

/-- The session has the link, or will find out with the next good reply that it is there, or with
the one after that. -/
def Recovers (s : Session) : Prop :=
  s.commsOk = true ∨ s.state = .awaitInitialStatus ∨ s.state = .awaitCommandAck ∨
    s.commandPending = true

/-- At rest, with nothing to be sent, a session that recovers has the link. -/
theorem Recovers.commsOk (h : s.Recovers) (hs : s.state = .idle)
    (hpending : s.commandPending = false) : s.commsOk = true := by
  rcases h with hok | hinitial | hack | hwaits
  · exact hok
  · exact absurd (hs.symm.trans hinitial) nofun
  · exact absurd (hs.symm.trans hack) nofun
  · exact absurd (hpending.symm.trans hwaits) nofun

/-- A command that waits at the end of an exchange is sent. -/
theorem recovers_resolve {t : Session} (h : t.commsOk = true ∨ t.commandPending = true) :
    t.resolve.1.Recovers := by
  rcases h with hok | hwaits
  · exact .inl ((commsOk_resolve t).trans hok)
  · refine .inr (.inr (.inl ?_))
    rw [resolve_of_pending hwaits]
    rfl

/-- Every exchange that the input ends is ended by a reply that the session waits for. -/
def Heard (s : Session) (i : SessionInput) : Prop :=
  s.endsExchange i = true → ∃ frame, i = .frame frame ∧ s.state.Takes frame

/-- The link is not lost while every exchange ends with a good reply. -/
theorem Course.commsOk (h : Course before after s i r) (hheard : s.Heard i)
    (hok : s.commsOk = true) : r.1.commsOk = true := by
  cases h with
  | lasts _ hcomms | begins _ hcomms | retries _ _ _ hcomms => exact hcomms.trans hok
  | ends ht hr =>
    obtain ⟨frame, rfl, htakes⟩ := hheard ht.endsExchange
    rw [hr, commsOk_resolve]
    exact ht.commsOk_of_takes htakes hok

/-- A session goes on recovering while every exchange ends with a good reply. -/
theorem Course.recovers (h : Course before after s i r) (hheard : s.Heard i)
    (hrest : s.state = .idle → s.commandPending = false) (hs : s.Recovers) : r.1.Recovers := by
  cases h with
  | lasts hstate hcomms hpending =>
    rcases hs with hok | hinitial | hack | hwaits
    · exact .inl (hcomms.trans hok)
    · exact .inr (.inl (hstate.trans hinitial))
    · exact .inr (.inr (.inl (hstate.trans hack)))
    · exact .inr (.inr (.inr (hpending hwaits)))
  | begins hidle hcomms => exact .inl (hcomms.trans (hs.commsOk hidle (hrest hidle)))
  | retries _ _ hstate => exact .inr (.inl hstate)
  | ends ht hr =>
    obtain ⟨frame, rfl, htakes⟩ := hheard ht.endsExchange
    rw [hr]
    refine recovers_resolve ?_
    rcases ht.of_takes htakes with ⟨status, rfl⟩ | ⟨hstate, status, rfl⟩ | rfl
    · exact .inr rfl
    · rcases hs with hok | hinitial | hack | hwaits
      · exact .inl hok
      · exact absurd (hstate.symm.trans hinitial) nofun
      · exact absurd (hstate.symm.trans hack) nofun
      · exact .inr (ht.commandPending hwaits)
    · exact .inl rfl

/-- The link does not come back where every frame is refused. -/
theorem Course.commsOk_of_refused (h : Course before after s i r)
    (hrefused : ∀ frame, i = .frame frame → Frame.Refused frame) (hok : s.commsOk = false) :
    r.1.commsOk = false := by
  cases h with
  | lasts _ hcomms | begins _ hcomms | retries _ _ _ hcomms => exact hcomms.trans hok
  | ends ht hr =>
    rw [hr, commsOk_resolve]
    exact ht.commsOk_of_refused hrefused

end Session

end DomeLink
