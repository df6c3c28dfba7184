import DomeLink.Proofs.Connection.Exchange
import DomeLink.Proofs.Session.Status

/-!
# What clients see

The board is written only as the session tells of something. The session tells of whatever changes
its status or its `commsOk`, so the board always shows what the session holds.

`Watched` is a run of a connection with the clients that look at the board: in between any two turns
they may take the two marks and name listeners. It keeps what had happened to the session when each
mark was taken last (`Seen`), so that it can be said what a mark stands for.

* `board_execute`: what carrying out actions writes on the board.
* `Turn.goesOn`: what a turn writes on it, which is what the session tells of.
* `Watched.shows`: what the board shows in every run, and when a mark is set.
* `Operated.viewed`: whatever clients do is such a run.
-/

namespace DomeLink

/-! ## Telling of several events -/

namespace Board

/-- Publishes events of a session that is in the same status all the while. -/
def publishAll (b : Board) (status : Status) (events : List SessionEvent) : Board :=
  events.foldl (·.publish status ·) b

variable {status : Status} {events : List SessionEvent}

theorem publishAll_cons (b : Board) (status : Status) (event : SessionEvent)
    (events : List SessionEvent) :
    b.publishAll status (event :: events) = (b.publish status event).publishAll status events := rfl

/-- What no event touches stays as events are published. -/
theorem publishAll_keeps {α : Type} (f : Board → α)
    (hpublish : ∀ b status event, f (Board.publish b status event) = f b) (b : Board)
    (status : Status) (events : List SessionEvent) : f (b.publishAll status events) = f b := by
  induction events generalizing b with
  | nil => rfl
  | cons event events ih => rw [publishAll_cons, ih, hpublish]

theorem closed_publish (b : Board) (status : Status) (event : SessionEvent) :
    (b.publish status event).closed = b.closed := by
  cases event with
  | handsetChanged =>
    simp only [publish, tell, callListener]
    split <;> rfl
  | _ => rfl

theorem status_publish (b : Board) (status : Status) (event : SessionEvent) :
    (b.publish status event).status = if .statusUpdated = event then status else b.status := by
  cases event with
  | handsetChanged =>
    simp only [publish, tell, callListener]
    split <;> rfl
  | _ => rfl

theorem statusAvailable_publish (b : Board) (status : Status) (event : SessionEvent) :
    (b.publish status event).statusAvailable = true ↔
      b.statusAvailable = true ∨ .statusUpdated = event := by
  cases event with
  | statusUpdated => exact iff_of_true rfl (.inr rfl)
  | commsChanged => simp [publish, tell]
  | handsetChanged =>
    simp only [publish, tell, callListener]
    split <;> simp

theorem commsChanged_publish (b : Board) (status : Status) (event : SessionEvent) :
    (b.publish status event).commsChanged = true ↔
      b.commsChanged = true ∨ (Action.edge? event).isSome = true := by
  cases event with
  | commsChanged => exact iff_of_true rfl (.inr rfl)
  | statusUpdated => simp [publish, tell, Action.edge?]
  | handsetChanged =>
    simp only [publish, tell, callListener]
    split <;> simp [Action.edge?]

theorem closed_publishAll (b : Board) (status : Status) (events : List SessionEvent) :
    (b.publishAll status events).closed = b.closed := publishAll_keeps _ closed_publish b status events

theorem status_publishAll (b : Board) (status : Status) (events : List SessionEvent) :
    (b.publishAll status events).status =
      if .statusUpdated ∈ events then status else b.status := by
  induction events generalizing b with
  | nil => rfl
  | cons event events ih =>
    rw [publishAll_cons, ih, status_publish]
    by_cases h : .statusUpdated = event <;> simp [h]

theorem statusAvailable_publishAll (b : Board) (status : Status) (events : List SessionEvent) :
    (b.publishAll status events).statusAvailable = true ↔
      b.statusAvailable = true ∨ .statusUpdated ∈ events := by
  induction events generalizing b with
  | nil => simp [publishAll]
  | cons event events ih =>
    rw [publishAll_cons, ih, statusAvailable_publish, List.mem_cons, or_assoc]

theorem commsOk_publishAll (b : Board) (status : Status) (events : List SessionEvent) :
    (b.publishAll status events).commsOk =
      (events.filterMap Action.edge?).getLast?.getD b.commsOk := by
  induction events generalizing b with
  | nil => rfl
  | cons event events ih =>
    rw [publishAll_cons, ih, Connection.commsOk_publish, List.filterMap_cons]
    cases Action.edge? event with
    | none => rfl
    | some ok =>
      rw [List.getLast?_cons]
      rfl

theorem commsChanged_publishAll (b : Board) (status : Status) (events : List SessionEvent) :
    (b.publishAll status events).commsChanged = true ↔
      b.commsChanged = true ∨ events.filterMap Action.edge? ≠ [] := by
  induction events generalizing b with
  | nil => simp [publishAll]
  | cons event events ih =>
    rw [publishAll_cons, ih, commsChanged_publish, List.filterMap_cons]
    cases Action.edge? event <;> simp

/-- What is seen of the marks without taking them. -/
theorem has_events (b : Board) :
    b.events.has PlcEvents.statusAvailable = b.statusAvailable ∧
      b.events.has PlcEvents.commsChanged = b.commsChanged ∧
      b.events.has PlcEvents.closed = b.closed := by
  unfold events
  cases b.statusAvailable <;> cases b.commsChanged <;> cases b.closed <;> decide

end Board

/-! ## What a session tells of -/

namespace Session

/-- What a session tells of in the course of the inputs, in order. -/
def told (s : Session) (inputs : List SessionInput) : List SessionEvent :=
  Action.events (s.runActions inputs).flatten

/-- `commsOk` changes in the course of the inputs. -/
def Flips (s : Session) : List SessionInput → Prop
  | [] => False
  | i :: is => (s.step i).1.commsOk ≠ s.commsOk ∨ (s.step i).1.Flips is

variable {timing : Timing} {before since : List SessionInput}

theorem told_cons (s : Session) (i : SessionInput) (is : List SessionInput) :
    s.told (i :: is) = Action.events (s.step i).2 ++ (s.step i).1.told is :=
  Action.events_append _ _

theorem flips_append (s : Session) (is js : List SessionInput) :
    s.Flips (is ++ js) ↔ s.Flips is ∨ (s.run is).Flips js := by
  induction is generalizing s with
  | nil => simp [Flips, run_nil]
  | cons i is ih => rw [List.cons_append, Flips, ih, Flips, run_cons, or_assoc]

theorem statusUpdated_mem_events {actions : List Action} :
    .statusUpdated ∈ Action.events actions ↔ .notify .statusUpdated ∈ actions := by
  rw [Action.events, List.mem_filterMap]
  constructor
  · rintro ⟨action, hmem, haction⟩
    cases action with
    | notify event =>
      cases haction
      exact hmem
    | _ => cases haction
  · exact fun hmem => ⟨_, hmem, rfl⟩

/-- A new status is told of exactly if a reply is accepted. -/
theorem statusUpdated_mem_told_iff (s : Session) (inputs : List SessionInput) :
    .statusUpdated ∈ s.told inputs ↔ s.acceptedStatuses inputs ≠ [] := by
  induction inputs generalizing s with
  | nil => simp [told, runActions, acceptedStatuses, Action.events]
  | cons i is ih =>
    rw [told_cons, List.mem_append, ih, statusUpdated_mem_events, statusUpdated_mem_step_iff,
      acceptedStatuses]
    cases s.acceptedStatus? i <;> simp

/-- A change of `commsOk` is told of exactly if there is one. -/
theorem edges_told_ne_nil_iff (s : Session) (inputs : List SessionInput) :
    (s.told inputs).filterMap Action.edge? ≠ [] ↔ s.Flips inputs := by
  induction inputs generalizing s with
  | nil => exact iff_of_false (fun h => h rfl) id
  | cons i is ih =>
    have hstep : Action.edges (s.step i).2 = _ := tellsEdge_step s i
    rw [told_cons, List.filterMap_append, ← Action.edges, hstep, Flips, ← ih]
    by_cases h : (s.step i).1.commsOk = s.commsOk <;> simp [h]

/-- The last change that is told of is the one that stays. -/
theorem commsOk_run (s : Session) (inputs : List SessionInput) :
    (s.run inputs).commsOk =
      ((s.told inputs).filterMap Action.edge?).getLast?.getD s.commsOk := by
  induction inputs generalizing s with
  | nil => rfl
  | cons i is ih =>
    have hstep : Action.edges (s.step i).2 = _ := tellsEdge_step s i
    rw [run_cons, ih, told_cons, List.filterMap_append, ← Action.edges, hstep,
      List.getLast?_append]
    split
    · rename_i hsame
      rw [hsame]
      simp
    · cases ((s.step i).1.told is).filterMap Action.edge? using List.reverseRecOn <;> simp

/-- A status that nothing is told of has not changed. -/
theorem status_run_of_not_told (timing : Timing) (before inputs : List SessionInput)
    (h : .statusUpdated ∉ (reached timing before).told inputs) :
    ((reached timing before).run inputs).status = (reached timing before).status := by
  rw [statusUpdated_mem_told_iff, ne_eq, Decidable.not_not] at h
  have hbefore := (tracks_reached timing before).latest
  have hafter := (tracks_reached timing (before ++ inputs)).latest
  rw [acceptedStatuses_append] at hafter
  rw [reached] at h
  rw [h, List.append_nil, hbefore, reached_append] at hafter
  exact (Except.ok.inj hafter).symm

theorem status_onTransmitError (s : Session) : s.onTransmitError.1.status = s.status := by
  unfold onTransmitError
  split
  · exact status_resolve s.failed
  · exact status_resolve s.failed
  all_goals rfl

end Session

/-! ## What is written on the board -/

namespace Connection

variable {π : Type} [Peer π] {config : Config} {log next : Log} {c d : Connection π}
  {i : SessionInput}

theorem board_transmit (c : Connection π) (frame : Bytes) :
    (c.transmit frame).1.board = c.board := by
  unfold transmit
  split <;> rfl

/-- A frame that cannot be sent does not touch the status. -/
theorem status_execute (c : Connection π) (actions : List Action) :
    (c.execute actions).session.status = c.session.status := by
  fun_induction execute c actions with
  | case1 => rfl
  | case2 c frame rest r htaken ih => rw [ih, session_transmit]
  | case3 c frame rest r fault hfailed next ih =>
    rw [ih]
    show r.1.session.onTransmitError.1.status = _
    rw [Session.status_onTransmitError, session_transmit]
  | case4 c timer ms rest ih => rw [ih]
  | case5 c timer rest ih => rw [ih]
  | case6 c event rest ih => rw [ih]

/-- **What carrying out actions writes on the board**: what the actions tell of, and then what the
session tells of as it sees that a frame could not be sent. -/
theorem board_execute (c : Connection π) (actions : List Action) :
    (c.execute actions).board = c.board.publishAll c.session.status
      (Action.events actions ++ c.session.told (c.executeLog actions).inputs) := by
  fun_induction execute c actions with
  | case1 c =>
    rw [executeLog, attempts]
    rfl
  | case2 c frame rest r htaken ih =>
    rw [ih, executeLog, executeLog, attempts_of_taken htaken, session_transmit, board_transmit]
    rfl
  | case3 c frame rest r fault hfailed next ih =>
    have hsession : r.1.session = c.session := session_transmit c frame
    have hnext : next = c.session.step .transmitError :=
      congrArg Session.onTransmitError hsession
    have hstatus : next.1.status = c.session.status := by
      rw [hnext]
      exact Session.status_onTransmitError c.session
    have hlog : (c.executeLog (.transmit frame :: rest)).inputs = .transmitError ::
        ({ r.1 with session := next.1 }.executeLog (rest ++ next.2)).inputs := by
      rw [executeLog, attempts_of_failed hfailed]
      rfl
    rw [ih, hlog, Session.told_cons, ← hnext, Action.events_append, List.append_assoc]
    show r.1.board.publishAll next.1.status _ = _
    rw [hstatus, board_transmit]
    rfl
  | case4 c timer ms rest ih => rw [ih, executeLog, executeLog, attempts]; rfl
  | case5 c timer rest ih => rw [ih, executeLog, executeLog, attempts]; rfl
  | case6 c event rest ih => rw [ih, executeLog, executeLog, attempts]; rfl

theorem board_feed (c : Connection π) (i : SessionInput) :
    (c.feed i).board =
      c.board.publishAll (c.feed i).session.status (c.session.told (c.feedLog i).inputs) := by
  have hstatus : (c.feed i).session.status = (c.session.step i).1.status := status_execute _ _
  have htold : c.session.told (c.feedLog i).inputs = Action.events (c.session.step i).2 ++
      (c.session.step i).1.told
        ({ c with session := (c.session.step i).1 }.executeLog (c.session.step i).2).inputs :=
    Session.told_cons c.session i _
  rw [hstatus, htold]
  exact board_execute { c with session := (c.session.step i).1 } (c.session.step i).2

/-- Of what is fed to the session only the input itself can be its end. -/
theorem close_mem_feedLog : .close ∈ (c.feedLog i).inputs ↔ i = .close := by
  constructor
  · intro hmem
    rcases List.mem_cons.1 hmem with h | h
    · exact h.symm
    · obtain ⟨_, -, h⟩ := List.mem_map.1 h
      cases h
  · rintro rfl
    exact List.mem_cons_self

/-- **The connection goes on** as the inputs happen to its session: what the session tells of is
written on the board, and its end is. -/
structure GoesOn (c : Connection π) (inputs : List SessionInput) (d : Connection π) : Prop where
  session : d.session = c.session.run inputs
  board : ∃ closed,
    d.board = { c.board.publishAll d.session.status (c.session.told inputs) with closed }
  closed : d.board.closed = true ↔ c.board.closed = true ∨ .close ∈ inputs
  running : d.running = false ↔ c.running = false ∨ .close ∈ inputs

/-- What is fed to a session that goes on afterwards. -/
theorem goesOn_feed (c : Connection π) (hi : i ≠ .close) :
    GoesOn c (c.feedLog i).inputs (c.feed i) where
  session := session_feed c i
  board := ⟨_, board_feed c i⟩
  closed := by
    rw [board_feed, Board.closed_publishAll, close_mem_feedLog]
    simp [hi]
  running := by
    rw [running_feed, close_mem_feedLog]
    simp [hi]

theorem goesOn_shutDown (c : Connection π) : GoesOn c (c.feedLog .close).inputs c.shutDown where
  session := session_feed c .close
  board := ⟨true, congrArg ({ · with closed := true }) (board_feed c .close)⟩
  closed := iff_of_true rfl (.inr (close_mem_feedLog.2 rfl))
  running := iff_of_true rfl (.inr (close_mem_feedLog.2 rfl))

/-- **Every turn goes on**, and the board is told what the session tells of. -/
theorem Turn.goesOn (h : Turn c next d) : GoesOn c next.inputs d := by
  cases h with
  | @frame frame rest =>
    obtain ⟨hsession, hboard, hclosed, hrunning⟩ :=
      goesOn_feed (i := .frame frame) { c with frames := rest } nofun
    exact ⟨hsession, hboard, hclosed, hrunning⟩
  | shutDown => exact goesOn_shutDown c
  | request h =>
    rw [execute_eq_feed h]
    exact goesOn_feed c nofun
  | @timer timer due h hdue =>
    rw [fire_eq_feed h hdue]
    obtain ⟨hsession, hboard, hclosed, hrunning⟩ :=
      goesOn_feed (i := .timer timer) { c with deadlines := c.deadlines.set timer none } nofun
    exact ⟨hsession, hboard, hclosed, hrunning⟩
  | chunk | streamEnd | wait =>
    exact ⟨rfl, ⟨_, rfl⟩, by simp [readChunk, noticeEnd], by simp [readChunk, noticeEnd]⟩

/-- The opening tells of nothing. -/
theorem goesOn_start (h : Action.events c.opening = []) : GoesOn c c.startLog.inputs c.start := by
  have hboard : c.start.board = _ := board_execute { c with opening := [] } c.opening
  have hstatus : c.start.session.status = c.session.status := status_execute _ _
  have hquiet : .close ∉ c.startLog.inputs := by
    intro hmem
    obtain ⟨_, -, hclose⟩ := List.mem_map.1 hmem
    cases hclose
  rw [h, List.nil_append] at hboard
  constructor
  case session => exact session_execute _ _
  case board =>
    rw [hstatus]
    exact ⟨_, hboard⟩
  case closed =>
    rw [hboard, Board.closed_publishAll]
    simp [hquiet]
  case running =>
    have hrunning : c.start.running = c.running := running_execute _ _
    rw [hrunning]
    simp [hquiet]

/-! ## Runs with clients that look -/

/-- What had happened to the session when the marks were taken last; nothing, if they have never
been. -/
structure Seen where
  /-- The mark of a new status. -/
  status : List SessionInput := []
  /-- The mark of a change of `commsOk`. -/
  comms : List SessionInput := []

/-- **What a run leads to** from the opening of the connection on, if nothing but the session writes
on the board and clients take the marks. It does not matter who takes them. -/
inductive Watched (config : Config) : Log → Seen → Connection π → Prop
  | opened {peer : π} {c : Connection π} (h : openTo config peer = .ok c) : Watched config {} {} c
  /-- The far end does what it likes; clients clone handles and drop them. -/
  | outside {log : Log} {seen : Seen} {c : Connection π} (h : Watched config log seen c) (peer : π)
      (frames inbound : List Bytes) (hungUp : Bool) (handles : List Bool) :
      Watched config log seen { c with peer, frames, inbound, hungUp, handles }
  | listen {log : Log} {seen : Seen} {c : Connection π} (h : Watched config log seen c)
      (listener : Listener) : Watched config log seen (c.listen listener)
  | takeStatusAvailable {log : Log} {seen : Seen} {c : Connection π}
      (h : Watched config log seen c) :
      Watched config log { seen with status := log.inputs } c.takeStatusAvailable.1
  | takeCommsChanged {log : Log} {seen : Seen} {c : Connection π} (h : Watched config log seen c) :
      Watched config log { seen with comms := log.inputs } c.takeCommsChanged.1
  | start {log : Log} {seen : Seen} {c : Connection π} (h : Watched config log seen c) :
      Watched config (log ++ c.startLog) seen c.start
  | turn {log next : Log} {seen : Seen} {c d : Connection π} (h : Watched config log seen c)
      (hopen : c.opening = []) (ht : Turn c next d) : Watched config (log ++ next) seen d

variable {seen : Seen}

/-- **What the board shows.** -/
structure Shows (config : Config) (log : Log) (seen : Seen) (c : Connection π) : Prop where
  session : c.session = Session.reached config.timing log.inputs
  commsOk : c.board.commsOk = c.session.commsOk
  /-- The status is that of the session, and the default before the first reply. -/
  status : c.board.status = c.session.status
  default : (Session.opened config.timing).1.acceptedStatuses log.inputs = [] → c.board.status = {}
  /-- The end is shown exactly if the session has been shut down. -/
  closed : c.board.closed = true ↔ .close ∈ log.inputs
  running : c.running = false ↔ .close ∈ log.inputs
  /-- The mark of a new status is there exactly if a reply has been accepted since it was taken. -/
  statusAvailable : ∃ since, log.inputs = seen.status ++ since ∧
    (c.takeStatusAvailable.2 = true ↔
      (Session.reached config.timing seen.status).acceptedStatuses since ≠ [])
  /-- The mark of a change is there exactly if `commsOk` has changed since it was taken. -/
  commsChanged : ∃ since, log.inputs = seen.comms ++ since ∧
    (c.takeCommsChanged.2 = true ↔ (Session.reached config.timing seen.comms).Flips since)
  /-- Who only looks at the marks sees the same. -/
  marks : c.board.events.has PlcEvents.statusAvailable = c.takeStatusAvailable.2 ∧
    c.board.events.has PlcEvents.commsChanged = c.takeCommsChanged.2 ∧
    c.board.events.has PlcEvents.closed = c.board.closed

/-- The opening tells of nothing, and is carried out once. -/
theorem Watched.events_opening (h : Watched config log seen c) :
    Action.events c.opening = [] := by
  induction h with
  | opened h =>
    obtain ⟨-, h⟩ := check_bind_eq_ok.1 h
    cases h
    rfl
  | outside _ _ _ _ _ _ ih => exact ih
  | listen _ _ ih | takeStatusAvailable _ ih | takeCommsChanged _ ih => exact ih
  | start =>
    rw [Connection.start, opening_execute]
    rfl
  | turn _ hopen ht =>
    rw [ht.opening, hopen]
    rfl

/-- The end is on the board exactly if the session has been shut down. -/
theorem Watched.closed_iff (h : Watched config log seen c) :
    c.board.closed = true ↔ c.running = false := by
  induction h with
  | opened h =>
    obtain ⟨-, h⟩ := check_bind_eq_ok.1 h
    cases h
    exact iff_of_false nofun nofun
  | outside _ _ _ _ _ _ ih => exact ih
  | listen _ _ ih | takeStatusAvailable _ ih | takeCommsChanged _ ih => exact ih
  | start hc ih =>
    have hd := goesOn_start hc.events_opening
    rw [hd.closed, hd.running, ih]
  | turn _ _ ht ih => rw [ht.goesOn.closed, ht.goesOn.running, ih]

omit [Peer π] in
/-- **What the board shows stays right** as the connection goes on. -/
theorem Shows.goesOn (h : Shows config log seen c) (hd : GoesOn c next.inputs d) :
    Shows config (log ++ next) seen d := by
  obtain ⟨closed, hboard⟩ := hd.board
  have hsession : d.session = (Session.reached config.timing log.inputs).run next.inputs := by
    rw [hd.session, h.session]
  have hlog : Session.reached config.timing (log ++ next).inputs = d.session := by
    rw [Log.inputs_append, Session.reached_append, hsession]
  have hstatus : d.board.status = d.session.status := by
    rw [hboard]
    show (c.board.publishAll _ _).status = _
    rw [Board.status_publishAll]
    split
    · rfl
    · rename_i hquiet
      rw [h.status, hsession, h.session]
      rw [h.session] at hquiet
      exact (Session.status_run_of_not_told config.timing log.inputs next.inputs hquiet).symm
  constructor
  case session => exact hlog.symm
  case commsOk =>
    rw [hboard, hd.session]
    show (c.board.publishAll _ _).commsOk = _
    rw [Board.commsOk_publishAll, h.commsOk, Session.commsOk_run]
  case status => exact hstatus
  case default =>
    intro hnone
    have hlatest := (Session.tracks_reached config.timing (log ++ next).inputs).latest
    rw [hnone, hlog] at hlatest
    rw [hstatus, ← Except.ok.inj hlatest]
  case closed => rw [hd.closed, h.closed, Log.inputs_append, List.mem_append]
  case running => rw [hd.running, h.running, Log.inputs_append, List.mem_append]
  case statusAvailable =>
    obtain ⟨since, hinputs, hmark⟩ := h.statusAvailable
    refine ⟨since ++ next.inputs, by rw [Log.inputs_append, hinputs, List.append_assoc], ?_⟩
    have hsince : (Session.reached config.timing seen.status).run since = c.session := by
      rw [← Session.reached_append, ← hinputs, h.session]
    rw [Session.acceptedStatuses_append, hsince]
    have hpublished := Board.statusAvailable_publishAll c.board d.session.status
      (c.session.told next.inputs)
    change c.board.statusAvailable = true ↔ _ at hmark
    rw [Session.statusUpdated_mem_told_iff, hmark, ← not_and_or, ← List.append_eq_nil_iff]
      at hpublished
    show d.board.statusAvailable = true ↔ _
    rw [hboard]
    exact hpublished
  case commsChanged =>
    obtain ⟨since, hinputs, hmark⟩ := h.commsChanged
    refine ⟨since ++ next.inputs, by rw [Log.inputs_append, hinputs, List.append_assoc], ?_⟩
    have hsince : (Session.reached config.timing seen.comms).run since = c.session := by
      rw [← Session.reached_append, ← hinputs, h.session]
    rw [Session.flips_append, hsince, ← hmark, ← Session.edges_told_ne_nil_iff c.session]
    show d.board.commsChanged = true ↔ _
    rw [hboard]
    exact Board.commsChanged_publishAll _ _ _
  case marks => exact Board.has_events d.board

omit [Peer π] in
theorem shows_opened {peer : π} (h : openTo config peer = .ok c) : Shows config {} {} c := by
  obtain ⟨-, h⟩ := check_bind_eq_ok.1 h
  cases h
  constructor
  case statusAvailable => exact ⟨[], rfl, iff_of_false nofun fun h => h rfl⟩
  case commsChanged => exact ⟨[], rfl, iff_of_false nofun id⟩
  case closed => exact iff_of_false nofun nofun
  case running => exact iff_of_false nofun nofun
  case marks => exact Board.has_events _
  all_goals intros; rfl

/-- **What clients see is what the session holds**, in every run, and the marks tell what has
happened since they were taken. -/
theorem Watched.shows (h : Watched config log seen c) : Shows config log seen c := by
  induction h with
  | opened h => exact shows_opened h
  | outside _ _ _ _ _ _ ih => exact { ih with }
  | listen _ _ ih => exact { ih with marks := Board.has_events _ }
  | takeStatusAvailable _ ih =>
    exact { ih with
      statusAvailable := ⟨[], (List.append_nil _).symm, iff_of_false nofun fun h => h rfl⟩
      marks := Board.has_events _ }
  | takeCommsChanged _ ih =>
    exact { ih with
      commsChanged := ⟨[], (List.append_nil _).symm, iff_of_false nofun id⟩
      marks := Board.has_events _ }
  | start hc ih => exact ih.goesOn (goesOn_start hc.events_opening)
  | turn _ _ ht ih => exact ih.goesOn ht.goesOn

/-- The initial status has arrived at the very beginning, and a client has taken the other mark. -/
theorem shows_of_initial_status :
    ∃ (log : Log) (seen : Seen) (c : Connection Script), Watched {} log seen c ∧
      c.takeStatusAvailable.2 = true ∧ c.takeCommsChanged.2 = false ∧
      c.board.status.handset = 0x14 ∧ Shows {} log seen c := by
  obtain ⟨status, hhandset, hdecode⟩ : ∃ status : Status,
      status.handset = 0x14 ∧ Status.decode status.encode.dropLast = .ok status :=
    ⟨{ handset := 0x14 }, rfl, by decide +kernel⟩
  have hopened : openTo {} ({} : Script) = .ok _ := rfl
  have hstarted := (Watched.opened hopened).start
  have harrived := hstarted.outside {} [status.encode.dropLast] [] false []
  have hframe := (harrived.turn (by simp [start]) (.frame rfl)).takeCommsChanged
  refine ⟨_, _, _, hframe, ?_, ?_, ?_, hframe.shows⟩
  all_goals
    simp [start, handleFrame, execute, transmit, Session.opened, Session.onFrame,
      Session.initialStatus, hdecode, Session.requestStatus, Session.sendCommand, Session.arm,
      Line.transmit, Line.register, Line.ofCapacity, Peer.send, takeStatusAvailable,
      takeCommsChanged, Board.publish, Board.tell, Board.takeStatusAvailable,
      Board.takeCommsChanged, hhandset]

/-! ## Operations -/

/-- A run with clients that look leads to the connection. -/
def Viewed (config : Config) (c : Connection π) : Prop := ∃ log seen, Watched config log seen c

theorem Viewed.outside (h : Viewed config c) (peer : π) (frames inbound : List Bytes)
    (hungUp : Bool) (handles : List Bool) :
    Viewed config { c with peer, frames, inbound, hungUp, handles } := by
  obtain ⟨log, seen, h⟩ := h
  exact ⟨log, seen, h.outside peer frames inbound hungUp handles⟩

theorem Viewed.moves (h : Viewed config c) (hopen : c.opening = []) (hm : Moves c d) :
    Viewed config d := by
  refine (hm.keep (P := fun d => Viewed config d ∧ d.opening = []) ?_ ⟨h, hopen⟩).1
  rintro c d ⟨⟨log, seen, h⟩, hopen⟩ hmove
  obtain ⟨next, ht⟩ := hmove.exists_turn
  exact ⟨⟨_, seen, h.turn hopen ht⟩, ht.opening.trans hopen⟩

theorem Viewed.settle (h : Viewed config c) : Viewed config c.settle := by
  obtain ⟨log, seen, h⟩ := h
  exact Viewed.moves ⟨_, seen, h.start⟩ (opening_execute _ _) (moves_settle c)

theorem Viewed.request (h : Viewed config c) (changes : List Change) :
    Viewed config (c.request changes).1 := by
  by_cases hrun : c.running = true
  · exact h.settle.moves (opening_settle c) (moves_request c changes hrun).1
  · unfold Connection.request
    rw [if_neg hrun]
    exact h

theorem Viewed.waitUntil (h : Viewed config c) (hsteady : Steady config c)
    (ready : Connection π → Bool) (limit : Nat) : Viewed config (c.waitUntil ready limit).1 := by
  unfold Connection.waitUntil
  split
  · exact h
  · split
    · exact h
    · rename_i hlimit
      obtain ⟨hsettle, hopen⟩ := hsteady.settle
      have hle : c.settle.now ≤ limit := by
        rw [now_settle]
        exact Nat.le_of_not_le hlimit
      exact h.settle.moves hopen (moves_passUntil hsettle hopen (proceed?_settle c) ready hle).1

theorem Viewed.close (h : Viewed config c) : Viewed config c.close := by
  unfold Connection.close
  split
  · obtain ⟨log, seen, hsettle⟩ := h.settle
    exact ⟨_, seen, hsettle.turn (opening_settle c) .shutDown⟩
  · exact h

/-- **Whatever clients do** is a run with clients that look, so the board shows what it should. -/
theorem Operated.viewed (h : Operated config c) : Viewed config c := by
  induction h with
  | opened h => exact ⟨_, _, .opened h⟩
  | @peer c _ peer ih => exact ih.outside peer c.frames c.inbound c.hungUp c.handles
  | @arrive c _ chunk ih =>
    exact (ih.outside c.peer c.frames (c.inbound ++ [chunk]) c.hungUp c.handles).settle
  | @hangUp c _ ih => exact (ih.outside c.peer c.frames c.inbound true c.handles).settle
  | @clone c _ ih => exact ih.outside c.peer c.frames c.inbound c.hungUp (c.handles ++ [c.isHeld])
  | @dropHandle c _ index ih =>
    have hdropped := ih.outside c.peer c.frames c.inbound c.hungUp (c.handles.set index false)
    unfold Connection.dropHandle
    dsimp only
    split
    · exact hdropped.settle
    · exact hdropped
  | listen _ listener ih =>
    obtain ⟨log, seen, h⟩ := ih
    exact ⟨log, seen, h.listen listener⟩
  | takeStatusAvailable _ ih =>
    obtain ⟨log, seen, h⟩ := ih
    exact ⟨log, _, h.takeStatusAvailable⟩
  | takeCommsChanged _ ih =>
    obtain ⟨log, seen, h⟩ := ih
    exact ⟨log, _, h.takeCommsChanged⟩
  | request _ changes ih => exact ih.request changes
  | @sleep c h ms ih => exact ih.settle.moves (opening_settle c) (moves_sleep h.steady ms).1
  | waitUntil h ready limit ih => exact ih.waitUntil h.steady ready limit
  | close _ ih => exact ih.close

end Connection

end DomeLink
