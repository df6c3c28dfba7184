import DomeLink.Proofs.Connection.Run
import DomeLink.Proofs.Session.Delivery
import Mathlib.Logic.Function.Iterate

/-!
# Actions are carried out in rounds

Each round takes the first action off the queue and carries it out (`Agenda.round`). If that is a
frame that cannot be sent, the session is told so, and what it wants done then joins the queue:
behind all that is still to do, which is what `execute` does, or ahead of it (`Place`). So a round
can make the queue longer, and a second frame can be sent in the place of the first.

Neither happens to a session that has come from its opening. Its frame is the last of its actions,
so nothing is left to do when that fails (`SendsLast`). Nothing waits to be sent then either, except
before the initial status, where a failure brings no actions at all.

* `Transition.sendsLast`: what one step of a session at rest, or in an exchange, wants done.
* `exists_worksOff`: rounds that put them behind are what `execute` goes through.
* `getsDone_of_sendsLast`: a queue that ends with its only frame is worked off in either order
  alike, with one attempt at most.
* `Reaches.getsDone`: every queue of a connection is.
-/

namespace DomeLink

namespace Session

variable {s : Session} {i : SessionInput} {r : Step}

/-- Of the actions only the last one sends, if any, and if that fails nothing more is sent. -/
inductive SendsLast (s : Session) : List Action → Prop
  | nil : SendsLast s []
  | quiet {a : Action} {rest : List Action} (ha : a.isTransmit = false) (h : SendsLast s rest) :
      SendsLast s (a :: rest)
  | last {frame : Bytes} (h : Action.sends s.onTransmitError.2 = 0) :
      SendsLast s [.transmit frame]

theorem sends_cons_eq_zero {a : Action} {rest : List Action} :
    Action.sends (a :: rest) = 0 ↔ a.isTransmit = false ∧ Action.sends rest = 0 := by
  rw [Action.sends_cons, Nat.add_eq_zero_iff, Bool.toNat_eq_zero]
  exact and_comm

theorem SendsLast.append {before rest : List Action} (hbefore : Action.sends before = 0)
    (h : SendsLast s rest) : SendsLast s (before ++ rest) := by
  induction before with
  | nil => exact h
  | cons a before ih =>
    obtain ⟨ha, hquiet⟩ := sends_cons_eq_zero.1 hbefore
    exact .quiet ha (ih hquiet)

theorem sendsLast_of_quiet {actions : List Action} (h : Action.sends actions = 0) :
    SendsLast s actions := by
  rw [← List.append_nil actions]
  exact .append h .nil

/-- Without a command that waits, a failed transmission sends nothing. -/
theorem sends_onTransmitError_of_not_pending (h : s.commandPending = false) :
    Action.sends s.onTransmitError.2 = 0 := by
  have hle := sends_onTransmitError_le s
  rw [h] at hle
  exact Nat.eq_zero_of_le_zero (Nat.le_of_add_left_le hle)

/-- While the initial status is awaited, a failed transmission brings no actions. -/
theorem onTransmitError_of_awaitInitialStatus (h : s.state = .awaitInitialStatus) :
    s.onTransmitError = (s, []) := by
  simp only [onTransmitError, h]

/-- **After a step that sends, no failure sends anything**: nothing waits, or the initial status is
awaited. -/
theorem Transition.sends_onTransmitError (h : Transition s i r)
    (hrest : s.state = .idle → s.commandPending = false) (hsends : Action.sends r.2 ≠ 0) :
    Action.sends r.1.onTransmitError.2 = 0 := by
  cases h with
  | retry => rw [onTransmitError_of_awaitInitialStatus rfl]; rfl
  | poll hs => exact sends_onTransmitError_of_not_pending (hrest hs)
  | beat | update => exact sends_onTransmitError_of_not_pending rfl
  | @finish _ t => exact sends_onTransmitError_of_not_pending (commandPending_resolve t)
  | ignore | pollLater | beatLater | updateLater | updateClosed | close => exact absurd rfl hsends

/-- **What one step wants done** ends with the frame that it sends. -/
theorem Transition.sendsLast (h : Transition s i r)
    (hrest : s.state = .idle → s.commandPending = false) : SendsLast r.1 r.2 := by
  rcases h.asks with hquiet | ⟨before, frame, hasks, -⟩
  · exact sendsLast_of_quiet hquiet
  · have hfailed := h.sends_onTransmitError hrest (by rw [hasks.sends]; decide)
    rw [hasks.actions]
    exact .append hasks.quiet (.quiet rfl (.last hfailed))

theorem sendsLast_opened (timing : Timing) : SendsLast (opened timing).1 (opened timing).2 := by
  refine .quiet rfl (.last ?_)
  rw [onTransmitError_of_awaitInitialStatus rfl]
  rfl

end Session

namespace Connection

open Session (SendsLast sends_cons_eq_zero)

variable {π : Type} [Peer π]

/-! ## Rounds -/

/-- The connection after an action that sends nothing; sending is up to `transmit`. -/
def carryOut (c : Connection π) : Action → Connection π
  | .transmit _ => c
  | .arm timer ms => { c with deadlines := c.deadlines.set timer (some (c.now + ms)) }
  | .cancel timer => { c with deadlines := c.deadlines.set timer none }
  | .notify event => { c with board := c.board.publish c.session.status event }

/-- Where the actions of a failed transmission go, among those that are still to do. -/
inductive Place
  /-- Behind them. -/
  | behind
  /-- Ahead of them, so that they are carried out at once. -/
  | ahead

/-- The queue with the actions of a failed transmission in it. -/
def Place.put : Place → List Action → List Action → List Action
  | behind, rest, more => rest ++ more
  | ahead, rest, more => more ++ rest

/-- Actions that are being carried out: the connection so far, the actions that are still to do, and
the attempts to send a frame so far. -/
structure Agenda (π : Type) where
  connection : Connection π
  queue : List Action
  attempts : List Attempt := []

/-- **One round**: the first action is taken off the queue and carried out. -/
def Agenda.round (place : Place) (w : Agenda π) : Agenda π :=
  let c := w.connection
  match w.queue with
  | [] => w
  | .transmit frame :: rest =>
    let r := c.transmit frame
    match r.2 with
    | none => ⟨r.1, rest, w.attempts ++ [⟨c.now, true, frame⟩]⟩
    | some _ =>
      let next := r.1.session.onTransmitError
      ⟨{ r.1 with session := next.1 }, place.put rest next.2,
        w.attempts ++ [⟨c.now, false, frame⟩]⟩
  | a :: rest => ⟨c.carryOut a, rest, w.attempts⟩

variable {c : Connection π} {frame : Bytes} {rest actions : List Action} {place : Place}

omit [Peer π] in
theorem session_carryOut (c : Connection π) (a : Action) : (c.carryOut a).session = c.session := by
  cases a <;> rfl

theorem execute_cons_of_quiet {a : Action} (ha : a.isTransmit = false) :
    c.execute (a :: rest) = (c.carryOut a).execute rest := by
  cases a with
  | transmit => cases ha
  | arm | cancel | notify => rw [execute, carryOut]

theorem attempts_cons_of_quiet {a : Action} (ha : a.isTransmit = false) :
    c.attempts (a :: rest) = (c.carryOut a).attempts rest := by
  cases a with
  | transmit => cases ha
  | arm | cancel | notify => rw [attempts, carryOut]

/-- So many rounds work the actions off: nothing is left to do then, and the connection and the
attempts are those of `execute`. -/
def WorksOff (place : Place) (c : Connection π) (actions : List Action) (n : Nat) : Prop :=
  ∀ made, (Agenda.round place)^[n] ⟨c, actions, made⟩ =
    ⟨c.execute actions, [], made ++ c.attempts actions⟩

theorem worksOff_nil (place : Place) (c : Connection π) : WorksOff place c [] 0 := by
  intro made
  rw [execute, attempts, List.append_nil]
  rfl

/-- **An action that sends nothing** takes one round. -/
theorem worksOff_cons_of_quiet {a : Action} {n : Nat} (ha : a.isTransmit = false)
    (h : WorksOff place (c.carryOut a) rest n) : WorksOff place c (a :: rest) (n + 1) := by
  intro made
  have hround : Agenda.round place ⟨c, a :: rest, made⟩ = ⟨c.carryOut a, rest, made⟩ := by
    cases a with
    | transmit => cases ha
    | arm | cancel | notify => rfl
  rw [Function.iterate_succ_apply, hround, h, execute_cons_of_quiet ha, attempts_cons_of_quiet ha]

/-- A frame that is taken takes one round. -/
theorem worksOff_of_taken {n : Nat} (htaken : (c.transmit frame).2 = none)
    (h : WorksOff place (c.transmit frame).1 rest n) :
    WorksOff place c (.transmit frame :: rest) (n + 1) := by
  intro made
  have hround : Agenda.round place ⟨c, .transmit frame :: rest, made⟩ =
      ⟨(c.transmit frame).1, rest, made ++ [⟨c.now, true, frame⟩]⟩ := by
    simp only [Agenda.round, htaken]
  have hexecute : c.execute (.transmit frame :: rest) = (c.transmit frame).1.execute rest := by
    rw [execute]
    simp only [htaken]
  rw [Function.iterate_succ_apply, hround, h, hexecute, attempts_of_taken htaken,
    List.append_assoc, List.singleton_append]

/-- The connection after a frame that was not taken: the session has been told. -/
def refused (c : Connection π) (frame : Bytes) : Connection π :=
  { (c.transmit frame).1 with session := c.session.onTransmitError.1 }

/-- A frame that is not taken takes one round too, and the actions of its failure join the queue. -/
theorem worksOff_of_failed {fault : TransportFault} {n : Nat}
    (hfailed : (c.transmit frame).2 = some fault)
    (hplace : place.put rest c.session.onTransmitError.2 = rest ++ c.session.onTransmitError.2)
    (h : WorksOff place (c.refused frame) (rest ++ c.session.onTransmitError.2) n) :
    WorksOff place c (.transmit frame :: rest) (n + 1) := by
  intro made
  have hround : Agenda.round place ⟨c, .transmit frame :: rest, made⟩ =
      ⟨c.refused frame, rest ++ c.session.onTransmitError.2,
        made ++ [⟨c.now, false, frame⟩]⟩ := by
    simp only [Agenda.round, hfailed, session_transmit, hplace, refused]
  have hexecute : c.execute (.transmit frame :: rest) =
      (c.refused frame).execute (rest ++ c.session.onTransmitError.2) := by
    rw [execute]
    simp only [hfailed, session_transmit, refused]
  have hattempts : c.attempts (.transmit frame :: rest) =
      ⟨c.now, false, frame⟩ ::
        (c.refused frame).attempts (rest ++ c.session.onTransmitError.2) := by
    rw [attempts_of_failed hfailed, session_transmit]
    rfl
  rw [Function.iterate_succ_apply, hround, h, hexecute, hattempts, List.append_assoc,
    List.singleton_append]

/-- **Rounds are what `execute` goes through**: they work off every queue. -/
theorem exists_worksOff (c : Connection π) (actions : List Action) :
    ∃ n, WorksOff .behind c actions n := by
  fun_induction execute c actions with
  | case1 c => exact ⟨0, worksOff_nil _ c⟩
  | case2 c frame rest r htaken ih =>
    obtain ⟨n, h⟩ := ih
    exact ⟨n + 1, worksOff_of_taken htaken h⟩
  | case3 c frame rest r fault hfailed next ih =>
    obtain ⟨n, h⟩ := ih
    simp only [r, next, session_transmit] at h
    exact ⟨n + 1, worksOff_of_failed hfailed rfl h⟩
  | case4 c timer ms rest ih =>
    obtain ⟨n, h⟩ := ih
    exact ⟨n + 1, worksOff_cons_of_quiet rfl h⟩
  | case5 c timer rest ih =>
    obtain ⟨n, h⟩ := ih
    exact ⟨n + 1, worksOff_cons_of_quiet rfl h⟩
  | case6 c event rest ih =>
    obtain ⟨n, h⟩ := ih
    exact ⟨n + 1, worksOff_cons_of_quiet rfl h⟩

/-! ## What a session wants done -/

/-- **The actions get done**, with so many attempts to send at most. -/
structure GetsDone (most : Nat) (c : Connection π) (actions : List Action) : Prop where
  /-- Rounds work the actions off, and it does not matter whether the actions of a failed
  transmission come after those that are still to do or at once. -/
  empties : ∃ n, ∀ place, WorksOff place c actions n
  attempts_le : (c.attempts actions).length ≤ most

variable {most : Nat}

theorem getsDone_nil (most : Nat) (c : Connection π) : GetsDone most c [] where
  empties := ⟨0, fun place => worksOff_nil place c⟩
  attempts_le := by
    rw [attempts]
    exact Nat.zero_le most

/-- An action that sends nothing leaves the session alone. -/
theorem getsDone_cons_of_quiet {a : Action} (ha : a.isTransmit = false)
    (h : ∀ d : Connection π, d.session = c.session → GetsDone most d rest) :
    GetsDone most c (a :: rest) := by
  have hrest := h (c.carryOut a) (session_carryOut c a)
  obtain ⟨n, hn⟩ := hrest.empties
  refine ⟨⟨n + 1, fun place => worksOff_cons_of_quiet ha (hn place)⟩, ?_⟩
  rw [attempts_cons_of_quiet ha]
  exact hrest.attempts_le

theorem getsDone_of_sends_eq_zero (h : Action.sends actions = 0) : GetsDone 0 c actions := by
  induction actions generalizing c with
  | nil => exact getsDone_nil 0 c
  | cons a rest ih =>
    obtain ⟨ha, hrest⟩ := sends_cons_eq_zero.1 h
    exact getsDone_cons_of_quiet ha fun d _ => ih hrest

/-- A single frame takes one attempt, if its failure sends nothing. -/
theorem getsDone_transmit (h : Action.sends c.session.onTransmitError.2 = 0) :
    GetsDone 1 c [.transmit frame] := by
  cases hfault : (c.transmit frame).2 with
  | none =>
    refine ⟨⟨1, fun place => worksOff_of_taken hfault (worksOff_nil place _)⟩, ?_⟩
    rw [attempts_of_taken hfault, attempts]
    exact Nat.le_refl 1
  | some fault =>
    have hnext : GetsDone 0 (c.refused frame) c.session.onTransmitError.2 :=
      getsDone_of_sends_eq_zero h
    obtain ⟨n, hn⟩ := hnext.empties
    refine ⟨⟨n + 1, fun place => worksOff_of_failed hfault ?_ (hn place)⟩, ?_⟩
    · -- nothing is left to do, so both places are one and the same
      cases place with
      | behind => rfl
      | ahead => exact List.append_nil _
    · have hnone := hnext.attempts_le
      rw [attempts_of_failed hfault, session_transmit]
      exact Nat.succ_le_succ hnone

/-- **What ends with the only frame to send gets done**, with one attempt. -/
theorem getsDone_of_sendsLast (h : SendsLast c.session actions) : GetsDone 1 c actions := by
  generalize hs : c.session = s at h
  induction h generalizing c with
  | nil => exact getsDone_nil 1 c
  | quiet ha _ ih => exact getsDone_cons_of_quiet ha fun d hd => ih (hd.trans hs)
  | last hfailed => exact getsDone_transmit (by rw [hs]; exact hfailed)

/-! ## Runs -/

variable {config : Config} {log : Log}

/-- The opening is as the session was opened with, as long as it has not been carried out. -/
theorem Reaches.opening_cases (h : Reaches config log c) :
    c.opening = [] ∨
      c.opening = (Session.opened config.timing).2 ∧
        c.session = (Session.opened config.timing).1 := by
  induction h with
  | opened h =>
    obtain ⟨-, h⟩ := check_bind_eq_ok.1 h
    cases h
    exact .inr ⟨rfl, rfl⟩
  | outside _ _ _ _ _ _ _ ih => exact ih
  | start => exact .inl (opening_execute _ _)
  | turn _ hopen ht =>
    rw [ht.opening, hopen]
    exact .inl rfl

/-- **Every queue of a connection gets done**, with one attempt to send at most: its opening, and
what the session wants done whatever happens to it, with whatever far end and on whatever line. -/
theorem Reaches.getsDone (h : Reaches config log c) :
    GetsDone 1 { c with opening := [] } c.opening ∧
      ∀ (i : SessionInput) (d : Connection π), d.session = (c.session.step i).1 →
        GetsDone 1 d (c.session.step i).2 := by
  constructor
  · rcases h.opening_cases with hopening | ⟨hopening, hsession⟩
    · rw [hopening]
      exact getsDone_nil 1 _
    · have hlast := Session.sendsLast_opened config.timing
      rw [hopening]
      refine getsDone_of_sendsLast ?_
      show SendsLast c.session _
      rw [hsession]
      exact hlast
  · intro i d hd
    have hrest : c.session.state = .idle → c.session.commandPending = false := by
      rw [h.sound.session]
      exact (Session.told_reached config.timing log.inputs).idle
    have hlast := (c.session.step_transition i).sendsLast hrest
    rw [← hd] at hlast
    exact getsDone_of_sendsLast hlast

/-- The first command has been sent, another one waits, and the far end no longer takes frames: with
the acknowledgement the waiting one is sent, in vain, and nothing else. -/
theorem getsDone_of_waiting_command :
    ∃ (log : Log) (c : Connection Script) (r : Session.Step), Reaches {} log c ∧
      c.session.commandPending = true ∧
      r = c.session.step (.frame (Frame.commandAck 0).dropLast) ∧
      ({ c with session := r.1 }.attempts r.2).map Attempt.delivered = [false] ∧
      GetsDone 1 { c with session := r.1 } r.2 := by
  have hdecode : Status.decode (Status.encode {}).dropLast = .ok {} := by decide +kernel
  have hack : Frame.checkReply .commandAck (Frame.commandAck 0).dropLast = .ok () := by
    decide +kernel
  have hopened : openTo {} ({} : Script) = .ok _ := rfl
  have hstarted := (Reaches.opened hopened).start
  have harrived := hstarted.outside {} [(Status.encode {}).dropLast] [] false [] {}
  have hframe := harrived.turn (by simp [start]) (.frame rfl)
  have hrequest := hframe.turn (by simp [handleFrame, start])
    (.request (show Session.update _ [] = .ok _ from rfl))
  have hfailing := hrequest.outside { failing := true } [] [] false [] {}
  have hgets := hfailing.getsDone.2 (.frame (Frame.commandAck 0).dropLast)
  refine ⟨_, _, _, hfailing, ?_, rfl, ?_, hgets _ rfl⟩
  all_goals
    simp [start, handleFrame, execute, attempts, transmit, Session.step, Session.opened,
      Session.onFrame, Session.initialStatus, hdecode, Session.requestStatus, Session.sendCommand,
      Session.issueCommand, Session.commandAck, hack, Session.commsEdge, Session.resolve,
      Session.onTransmitError, Session.failExchange, Session.arm, Line.transmit, Line.register,
      Line.ofCapacity, Peer.send]

end Connection

end DomeLink
