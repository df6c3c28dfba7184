import DomeLink.Proofs.Connection.Healthy
import DomeLink.Proofs.Connection.Ticks
import DomeLink.Proofs.Session.Polls

/-!
# Polling keeps its cadence

The poll timer is started anew where it runs out and where a status arrives. With a simulator that
answers both are the same instant: the status is asked for as the timer runs out, and arrives at
once. So the `n`-th poll is asked for at `n` periods, however the session is used (`Cadence`), for
two reasons. A timer is served as it becomes due, and the poll timer before the heartbeat. And the
session is at rest then: an exchange ends at the instant at which it began, and a request is not
taken where a timer is due.

`polls_keep_cadence` counts the status requests by that.
-/

namespace DomeLink.Connection

variable {config : Config} {c d : Connection Simulator} {i : SessionInput}

/-! ## Which timers run -/

/-- Only an established session has a timer besides the response timer. -/
theorem Linked.isEstablished (h : Linked config c) {timer : Timer} {due : Nat}
    (hget : c.deadlines.get timer = some due) (htimer : timer ≠ .response) :
    c.session.state.isEstablished = true := by
  obtain ⟨t, hdeadlines, hcoherent⟩ := h.coherent
  have hsome : (t.deadlines.get timer).isSome = true := by
    rw [hdeadlines]
    exact Option.isSome_of_eq_some hget
  cases timer with
  | response => exact absurd rfl htimer
  | statusPoll => exact hcoherent.fits.statusPoll.symm.trans hsome
  | heartbeat => exact hcoherent.fits.heartbeat.symm.trans hsome

/-- The response timer is not due while replies are prompt. -/
theorem Prompt.now_lt (h : Prompt c) (hlinked : Linked config c) {due : Nat}
    (hget : c.deadlines.get .response = some due) : c.now < due := by
  obtain ⟨t, hdeadlines, hcoherent⟩ := hlinked.coherent
  have hawaiting : c.session.state.isAwaiting = true := by
    refine hcoherent.fits.response_isSome_iff.1 ?_
    rw [hdeadlines]
    exact Option.isSome_of_eq_some hget
  rcases hlinked.answers with hnil | ⟨-, -, hlater⟩
  · exact absurd hnil (h.arrives hawaiting)
  · exact hlater due hget

/-! ## What changes the number of status requests -/

theorem Fed.requests_of_quiet (h : Fed c i d) (hquiet : Action.sends (c.session.step i).2 = 0) :
    d.peer.requests = c.peer.requests := by
  rw [h.peer, Action.frames_eq_nil hquiet]
  rfl

/-- A command is not a status request. -/
theorem Fed.requests_of_command (h : Fed c i d) (hlinked : Linked config c) (hdue : Due c i)
    (hs : (c.session.step i).1.state = .awaitCommandAck) :
    d.peer.requests = c.peer.requests := by
  rcases (h.course hlinked hdue).sends with hquiet | ⟨⟨before, frame, hasks⟩, -⟩
  · exact h.requests_of_quiet hquiet
  · rw [h.peer, hasks.frames, hasks.command hs, Simulator.serve, Simulator.serve,
      Simulator.receive_encode]

/-- A reply that the session waits for is followed by the command that waited, or by rest. -/
theorem Fed.after_reply {frame : Bytes} (h : Fed c (.frame frame) d) (hlinked : Linked config c)
    (hdue : Due c (.frame frame)) (htakes : c.session.state.Takes frame) :
    (d.session.state = .idle ∨ d.session.state = .awaitCommandAck) ∧
      d.peer.requests = c.peer.requests := by
  obtain ⟨t, before, -, hbefore, hstep⟩ :=
    Session.exists_settles (Session.endsExchange_of_takes htakes)
  have hstate : d.session.state = if t.commandPending then .awaitCommandAck else .idle := by
    rw [h.session, hstep]
    exact Session.state_resolve_eq t
  cases hwaits : t.commandPending with
  | true =>
    rw [hwaits, if_pos rfl] at hstate
    refine ⟨.inr hstate, h.requests_of_command hlinked hdue ?_⟩
    rw [← h.session, hstate]
  | false =>
    rw [hwaits] at hstate
    refine ⟨.inl hstate, h.requests_of_quiet ?_⟩
    rw [hstep, Action.sends_append, hbefore, Session.resolve_of_not_pending hwaits]
    rfl

theorem Fed.statusPoll (h : Fed c i d) (hlinked : Linked config c) (hi : i ≠ .close) :
    c.session.StartsPoll i ∧
        d.deadlines.statusPoll = some (c.now + config.timing.period .statusPoll) ∨
      ¬ c.session.StartsPoll i ∧ d.deadlines.statusPoll = c.deadlines.statusPoll := by
  rw [h.deadlines { deadlines := c.deadlines } rfl, ← hlinked.timing]
  exact Session.statusPoll_step hlinked.isOpen hi

/-! ## The cadence -/

/-- **The status has been asked for** `n` times since the beginning, each time as a period was
over. -/
structure Cadence (config : Config) (n : Nat) (c : Connection Simulator) : Prop where
  established : c.session.state.isEstablished = true
  requests : c.peer.requests = n + 1
  since : n * config.timing.period .statusPoll ≤ c.now
  next : c.deadlines.statusPoll = some ((n + 1) * config.timing.period .statusPoll)
  /-- The status arrives as it is asked for. -/
  asking : c.session.state = .awaitStatus → c.now = n * config.timing.period .statusPoll
  /-- The session is at rest as the next period is over. -/
  rest : c.now = (n + 1) * config.timing.period .statusPoll → c.session.state = .idle

/-- Replies are prompt, and the initial status is on its way or the cadence is kept. -/
structure Polling (config : Config) (c : Connection Simulator) : Prop where
  prompt : Prompt c
  polls : c.session.state = .awaitInitialStatus ∧ c.now = 0 ∧ c.peer.requests = 1 ∨
    ∃ n, Cadence config n c

/-- Time passes at rest. -/
theorem Cadence.quiet {n : Nat} (h : Cadence config n c) (hprompt : Prompt c)
    (hlinked : Linked config c) (hquiet : Quiet c d) : Cadence config n d := by
  have hnow : d.now = c.now ∨ c.session.state = .idle ∧ c.now ≤ d.now := by
    rcases hquiet.now with hsame | ⟨harriving, hle⟩
    · exact .inl hsame
    · exact .inr ⟨hprompt.idle hlinked harriving, hle⟩
  constructor
  · rw [hquiet.session]
    exact h.established
  · rw [hquiet.peer]
    exact h.requests
  · rcases hnow with hsame | ⟨-, hle⟩
    · rw [hsame]
      exact h.since
    · exact Nat.le_trans h.since hle
  · rw [hquiet.deadlines]
    exact h.next
  · intro hasking
    rw [hquiet.session] at hasking
    rcases hnow with hsame | ⟨hidle, -⟩
    · exact hsame.trans (h.asking hasking)
    · exact absurd (hidle.symm.trans hasking) nofun
  · intro hover
    rw [hquiet.session]
    rcases hnow with hsame | ⟨hidle, -⟩
    · exact h.rest (hsame.symm.trans hover)
    · exact hidle

theorem Polling.quiet (h : Polling config c) (hlinked : Linked config c) (hquiet : Quiet c d) :
    Polling config d := by
  refine ⟨h.prompt.happens hlinked (.quiet hquiet), ?_⟩
  rcases h.polls with ⟨hinitial, hnow, hrequests⟩ | ⟨n, hcadence⟩
  · left
    rw [hquiet.session, hquiet.peer]
    rcases hquiet.now with hsame | ⟨harriving, -⟩
    · exact ⟨hinitial, hsame.trans hnow, hrequests⟩
    · exact absurd (hinitial.symm.trans (h.prompt.idle hlinked harriving)) nofun
  · exact .inr ⟨n, hcadence.quiet h.prompt hlinked hquiet⟩

/-- The cadence begins with the initial status. -/
theorem cadence_of_initial {frame : Bytes} (hlinked : Linked config c)
    (hdue : Due c (.frame frame)) (hfed : Fed c (.frame frame) d)
    (htakes : c.session.state.Takes frame) (hinitial : c.session.state = .awaitInitialStatus)
    (hnow : c.now = 0) (hone : c.peer.requests = 1) : Cadence config 0 d := by
  obtain ⟨hstate, hrequests⟩ := hfed.after_reply hlinked hdue htakes
  have hstarts := (Session.startsPoll_frame_iff htakes).2 (.inl hinitial)
  have hnext : d.deadlines.statusPoll = some (c.now + config.timing.period .statusPoll) := by
    rcases hfed.statusPoll hlinked nofun with ⟨-, hnext⟩ | ⟨hnot, -⟩
    · exact hnext
    · exact absurd hstarts hnot
  refine ⟨?_, hrequests.trans hone, ?_, ?_, fun hasking => ?_, fun hover => ?_⟩
  · rcases hstate with hstate | hstate <;> rw [hstate] <;> rfl
  · rw [Nat.zero_mul]
    exact Nat.zero_le _
  · rw [hnext, hnow, Nat.zero_add, Nat.zero_add, Nat.one_mul]
  · rcases hstate with hstate | hstate <;> exact absurd (hstate.symm.trans hasking) nofun
  · have hpos := hlinked.period_pos .statusPoll
    rw [hfed.now, hnow, Nat.zero_add, Nat.one_mul] at hover
    omega

/-- A reply ends the exchange at the instant at which it began. -/
theorem Cadence.reply {n : Nat} {frame : Bytes} (h : Cadence config n c) (hlinked : Linked config c)
    (hdue : Due c (.frame frame)) (hfed : Fed c (.frame frame) d)
    (htakes : c.session.state.Takes frame) : Cadence config n d := by
  obtain ⟨hstate, hrequests⟩ := hfed.after_reply hlinked hdue htakes
  refine ⟨?_, hrequests.trans h.requests, ?_, ?_, fun hasking => ?_, fun hover => ?_⟩
  · rcases hstate with hstate | hstate <;> rw [hstate] <;> rfl
  · rw [hfed.now]
    exact h.since
  · rcases hfed.statusPoll hlinked nofun with ⟨hstarts, hnext⟩ | ⟨-, hsame⟩
    · -- the status has arrived that was asked for at this instant
      have hasking : c.session.state = .awaitStatus := by
        rcases (Session.startsPoll_frame_iff htakes).1 hstarts with hinitial | hasking
        · have hestablished := h.established
          rw [hinitial] at hestablished
          cases hestablished
        · exact hasking
      rw [hnext, h.asking hasking, Nat.add_mul, Nat.one_mul]
    · exact hsame.trans h.next
  · rcases hstate with hstate | hstate <;> exact absurd (hstate.symm.trans hasking) nofun
  · rw [hfed.now] at hover
    rw [h.rest hover] at htakes
    cases htakes

theorem Polling.frame {frame : Bytes} (h : Polling config c) (hlinked : Linked config c)
    (hdue : Due c (.frame frame)) (hfed : Fed c (.frame frame) d) : ∃ n, Cadence config n d := by
  have htakes : c.session.state.Takes frame := by
    cases hdue with
    | frame harriving => exact h.prompt.takes hlinked harriving
  rcases h.polls with ⟨hinitial, hnow, hone⟩ | ⟨n, hcadence⟩
  · exact ⟨0, cadence_of_initial hlinked hdue hfed htakes hinitial hnow hone⟩
  · exact ⟨n, hcadence.reply hlinked hdue hfed htakes⟩

/-- The poll timer runs out at rest, as a period is over. -/
theorem Cadence.poll {n due : Nat} (h : Cadence config n c) (hlinked : Linked config c)
    (hget : c.deadlines.get .statusPoll = some due) (hdue : due ≤ c.now)
    (hfed : Fed c (.timer .statusPoll) d) : Cadence config (n + 1) d := by
  have hnow : c.now = (n + 1) * config.timing.period .statusPoll := by
    have hle := hlinked.now_le hget
    cases h.next.symm.trans hget
    exact Nat.le_antisymm hle hdue
  obtain ⟨hstate, hframes⟩ := Session.step_statusPoll_of_idle (h.rest hnow)
  rw [← hfed.session] at hstate
  constructor
  · rw [hstate]
    rfl
  · rw [hfed.peer, hframes]
    show (c.peer.receive Frame.statusRequest).1.requests = _
    rw [Simulator.receive_statusRequest, h.requests]
  · rw [hfed.now]
    exact Nat.le_of_eq hnow.symm
  · rcases hfed.statusPoll hlinked nofun with ⟨-, hnext⟩ | ⟨hnot, -⟩
    · rw [hnext, hnow, Nat.add_mul (n + 1), Nat.one_mul]
    · exact absurd (.inl rfl) hnot
  · exact fun _ => hfed.now.trans hnow
  · intro hover
    have hpos := hlinked.period_pos .statusPoll
    rw [hfed.now, hnow, Nat.add_mul (n + 1), Nat.one_mul] at hover
    omega

/-- A heartbeat and an update leave the cadence alone, if the period is not over. -/
theorem Cadence.command {n : Nat} (h : Cadence config n c) (hlinked : Linked config c)
    (hi : i = .timer .heartbeat ∨ ∃ changes, i = .update changes) (hdue : Due c i)
    (hfed : Fed c i d) (hnow : c.now < (n + 1) * config.timing.period .statusPoll) :
    Cadence config n d := by
  have htr := c.session.step_transition i
  have hnot : ¬ c.session.StartsPoll i := by
    rcases hi with rfl | ⟨changes, rfl⟩ <;> exact Session.not_startsPoll_of_none nofun rfl
  have hrequests : d.peer.requests = c.peer.requests := by
    rcases htr.sends_command hi with ⟨-, hquiet⟩ | ⟨-, hstate⟩
    · exact hfed.requests_of_quiet hquiet
    · exact hfed.requests_of_command hlinked hdue hstate
  constructor
  · rw [hfed.session]
    exact htr.established h.established hdue.ne_close
  · exact hrequests.trans h.requests
  · rw [hfed.now]
    exact h.since
  · rcases hfed.statusPoll hlinked hdue.ne_close with ⟨hstarts, -⟩ | ⟨-, hsame⟩
    · exact absurd hstarts hnot
    · exact hsame.trans h.next
  · intro hasking
    rw [hfed.now]
    rw [hfed.session] at hasking
    rcases htr.sends_command hi with ⟨hsame, -⟩ | ⟨-, hstate⟩
    · exact h.asking (hsame.symm.trans hasking)
    · exact absurd (hstate.symm.trans hasking) nofun
  · intro hover
    rw [hfed.now] at hover
    omega

/-- Besides the response timer a timer runs only where the cadence is kept. -/
theorem Polling.cadence (h : Polling config c) (hlinked : Linked config c) {timer : Timer}
    {due : Nat} (hget : c.deadlines.get timer = some due) (htimer : timer ≠ .response) :
    ∃ n, Cadence config n c := by
  have hestablished := hlinked.isEstablished hget htimer
  rcases h.polls with ⟨hinitial, -, -⟩ | hcadence
  · rw [hinitial] at hestablished
    cases hestablished
  · exact hcadence

/-- Of the timers that are due the poll timer is served before the heartbeat. -/
theorem Polling.timer {timer : Timer} {due : Nat} (h : Polling config c) (hlinked : Linked config c)
    (hget : c.deadlines.get timer = some due) (hdue : due ≤ c.now)
    (hfirst : ∀ other time, other.index < timer.index → c.deadlines.get other = some time →
      c.now < time)
    (hfed : Fed c (.timer timer) d) : ∃ n, Cadence config n d := by
  cases timer with
  | response => exact absurd hdue (Nat.not_le.2 (h.prompt.now_lt hlinked hget))
  | statusPoll =>
    obtain ⟨n, hcadence⟩ := h.cadence hlinked hget nofun
    exact ⟨n + 1, hcadence.poll hlinked hget hdue hfed⟩
  | heartbeat =>
    obtain ⟨n, hcadence⟩ := h.cadence hlinked hget nofun
    have hnow := hfirst .statusPoll _ (by decide) hcadence.next
    exact ⟨n, hcadence.command hlinked (.inl rfl) (.timer hget hdue) hfed hnow⟩

theorem Polling.occurs (h : Polling config c) (hlinked : Linked config c) (hd : Occurs c d) :
    Polling config d := by
  cases hd with
  | quiet hquiet => exact h.quiet hlinked hquiet
  | frame ht =>
    have hfed := hlinked.fed ht
    have hdue := hlinked.due ht
    exact ⟨h.prompt.happens hlinked (.fed hdue hfed), .inr (h.frame hlinked hdue hfed)⟩
  | timer ht hfirst =>
    have hfed := hlinked.fed ht
    have hdue := hlinked.due ht
    refine ⟨h.prompt.happens hlinked (.fed hdue hfed), .inr ?_⟩
    cases ht with
    | timer hget hpast => exact h.timer hlinked hget hpast hfirst hfed

/-- A request is not taken as a period is over: the poll timer would be due. -/
theorem Polling.request {changes : List Change} (h : Polling config c) (hsteady : Steady config c)
    (hlinked : Linked config c) (harriving : c.arriving = [])
    (hfed : Fed c (.update changes) d) : Polling config d := by
  refine ⟨h.prompt.happens hlinked (.fed (.update harriving) hfed), .inr ?_⟩
  rcases h.polls with ⟨hinitial, -, -⟩ | ⟨n, hcadence⟩
  · exact absurd (hinitial.symm.trans (h.prompt.idle hlinked harriving)) nofun
  · have hget : c.deadlines.get .statusPoll = _ := hcadence.next
    have hnow := hsteady.now_lt hlinked.opening hget
    exact ⟨n, hcadence.command hlinked (.inr ⟨changes, rfl⟩) (.update harriving) hfed hnow⟩

/-! ## The count -/

/-- A connection with a simulator that answers, as it is opened. -/
structure Unpolled (c : Connection Simulator) : Prop where
  silent : c.peer.silent = false
  corrupt : c.peer.corrupt = false
  requests : c.peer.requests = 0
  now : c.now = 0

theorem Unpolled.start (h : Unpolled c) (hfresh : Fresh config c) : Polling config c.start := by
  have hbegun := hfresh.start
  refine ⟨hbegun.prompt h.silent h.corrupt, .inl ⟨?_, (now_execute _ _).trans h.now, ?_⟩⟩
  · rw [hbegun.session]
    rfl
  · rw [hbegun.peer, Simulator.receive_statusRequest, h.requests]

end DomeLink.Connection
