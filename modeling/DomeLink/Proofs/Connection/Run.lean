import DomeLink.Connection.Client
import DomeLink.Proofs.Session.Timers

/-!
# Runs of a connection

A running connection goes through one `Turn` after the other: it handles a frame, reads a chunk,
notices the end of the stream, takes a request, serves a timer that is due, is shut down, or waits,
but never beyond a deadline. In between the far end and the clients can do what they like. `Reaches`
collects what such a run can lead to from the opening of the connection on, together with the `Log`
of what has happened to the session and of the frames that were to be sent.

* `session_execute`: of all that actions do, the session only sees the frames that were not taken.
* `attempts_execute`: the attempts of the log are those that a far end can note.
* `coherent_execute`: carrying out actions leaves the timers coherent, whatever the far end does.
* `Reaches.sound`: what every run keeps.
-/

namespace DomeLink

/-- What has happened in a run. -/
@[ext] structure Log where
  /-- What has happened to the session. -/
  inputs : List SessionInput := []
  /-- The frames that were to be sent. -/
  attempts : List Attempt := []

namespace Log

/-- What has happened in two runs, one after the other. -/
instance : Append Log where
  append a b := { inputs := a.inputs ++ b.inputs, attempts := a.attempts ++ b.attempts }

@[simp] theorem inputs_append (a b : Log) : (a ++ b).inputs = a.inputs ++ b.inputs := rfl

@[simp] theorem attempts_append (a b : Log) : (a ++ b).attempts = a.attempts ++ b.attempts := rfl

@[simp] theorem append_empty (a : Log) : a ++ ({} : Log) = a :=
  Log.ext (List.append_nil _) (List.append_nil _)

theorem append_assoc (a b c : Log) : a ++ b ++ c = a ++ (b ++ c) :=
  Log.ext (List.append_assoc ..) (List.append_assoc ..)

/-- The time of the latest attempt to send a frame. -/
def asked (log : Log) : Option Nat := log.attempts.getLast?.map Attempt.time

end Log

namespace Connection

variable {π : Type} [Peer π]

/-! ## Attempts -/

/-- The frames that actions try to send, as `execute` carries them out. -/
def attempts (c : Connection π) : List Action → List Attempt
  | [] => []
  | .transmit frame :: rest =>
    let r := c.transmit frame
    match r.2 with
    | none => ⟨c.now, true, frame⟩ :: attempts r.1 rest
    | some _ =>
      let next := r.1.session.onTransmitError
      ⟨c.now, false, frame⟩ :: attempts { r.1 with session := next.1 } (rest ++ next.2)
  | .arm timer ms :: rest =>
    attempts { c with deadlines := c.deadlines.set timer (some (c.now + ms)) } rest
  | .cancel timer :: rest => attempts { c with deadlines := c.deadlines.set timer none } rest
  | .notify event :: rest =>
    attempts { c with board := c.board.publish c.session.status event } rest
termination_by actions => (c.session.commandPending.toNat + Action.sends actions, actions.length)
decreasing_by
  · apply Prod.Lex.left
    rw [session_transmit, Action.sends_cons]
    simp [Action.isTransmit]
  · have h := Session.sends_onTransmitError_le (c.transmit frame).1.session
    apply Prod.Lex.left
    rw [session_transmit] at h
    simp only [session_transmit, Action.sends_append, Action.sends_cons, Action.isTransmit,
      Bool.toNat_true]
    omega
  all_goals simp [Action.isTransmit, Prod.lex_def]

variable {c : Connection π} {frame : Bytes} {rest actions : List Action}

theorem attempts_of_taken (h : (c.transmit frame).2 = none) :
    c.attempts (.transmit frame :: rest) =
      ⟨c.now, true, frame⟩ :: (c.transmit frame).1.attempts rest := by
  rw [attempts]
  simp only [h]

theorem attempts_of_failed {fault : TransportFault} (h : (c.transmit frame).2 = some fault) :
    c.attempts (.transmit frame :: rest) =
      ⟨c.now, false, frame⟩ ::
        { (c.transmit frame).1 with
          session := (c.transmit frame).1.session.onTransmitError.1 }.attempts
            (rest ++ (c.transmit frame).1.session.onTransmitError.2) := by
  rw [attempts]
  simp only [h]

/-- What the session sees of attempts: those that failed. -/
def failures (attempts : List Attempt) : List SessionInput :=
  (attempts.filter fun a => !a.delivered).map fun _ => .transmitError

/-- What happens as actions are carried out. -/
def executeLog (c : Connection π) (actions : List Action) : Log :=
  { inputs := failures (c.attempts actions), attempts := c.attempts actions }

/-- The session after actions have been carried out has seen what failed, and nothing else. -/
theorem session_execute (c : Connection π) (actions : List Action) :
    (c.execute actions).session = c.session.run (c.executeLog actions).inputs := by
  fun_induction execute c actions with
  | case1 c => rw [executeLog, attempts]; rfl
  | case2 c frame rest r htaken ih =>
    rw [ih, executeLog, executeLog, attempts_of_taken htaken, session_transmit]
    rfl
  | case3 c frame rest r fault hfailed next ih =>
    rw [ih, executeLog, executeLog, attempts_of_failed hfailed]
    have hnext : next.1 = c.session.onTransmitError.1 :=
      congrArg (fun s => s.onTransmitError.1) (session_transmit c frame)
    exact congrArg (fun s => Session.run s _) hnext
  | case4 c timer ms rest ih => rw [ih, executeLog, executeLog, attempts]
  | case5 c timer rest ih => rw [ih, executeLog, executeLog, attempts]
  | case6 c event rest ih => rw [ih, executeLog, executeLog, attempts]

theorem line_transmit (c : Connection π) (frame : Bytes) : (c.transmit frame).1.line = c.line := by
  unfold transmit
  split <;> rfl

theorem attempts_transmit {c : Connection Script} (h : c.line.isBound = true) (frame : Bytes) :
    (c.transmit frame).1.peer.attempts =
      c.peer.attempts ++ [⟨c.now, (c.transmit frame).2.isNone, frame⟩] := by
  obtain ⟨transport, htransport⟩ := Option.isSome_iff_exists.1 h
  simp only [transmit, Line.transmit, htransport, Peer.send]
  cases c.peer.failing <;> rfl

/-- A far end that is on the line notes exactly the attempts, in order. -/
theorem attempts_execute {c : Connection Script} (h : c.line.isBound = true)
    (actions : List Action) :
    (c.execute actions).peer.attempts = c.peer.attempts ++ c.attempts actions := by
  fun_induction execute c actions with
  | case1 c => rw [attempts, List.append_nil]
  | case2 c frame rest r htaken ih =>
    rw [ih (by rwa [line_transmit]), attempts_of_taken htaken, attempts_transmit h, htaken,
      List.append_assoc]
    rfl
  | case3 c frame rest r fault hfailed next ih =>
    rw [ih (by rwa [line_transmit]), attempts_of_failed hfailed, attempts_transmit h, hfailed,
      List.append_assoc]
    rfl
  | case4 c timer ms rest ih => rw [ih h, attempts]
  | case5 c timer rest ih => rw [ih h, attempts]
  | case6 c event rest ih => rw [ih h, attempts]

/-! ## Timers -/

/-- What the session sees of time. -/
def timers (c : Connection π) (log : Log) : Timers :=
  { deadlines := c.deadlines, asked := log.asked }

@[simp] theorem now_transmit (c : Connection π) (frame : Bytes) :
    (c.transmit frame).1.now = c.now := by
  unfold transmit
  split <;> rfl

@[simp] theorem deadlines_transmit (c : Connection π) (frame : Bytes) :
    (c.transmit frame).1.deadlines = c.deadlines := by
  unfold transmit
  split <;> rfl

variable {timing : Timing} {low low' : Timer → Nat}

omit [Peer π] in
theorem timers_inputs (c : Connection π) (log : Log) (inputs : List SessionInput) :
    c.timers (log ++ { inputs }) = c.timers log := by
  simp [timers, Log.asked]

/-- An attempt is the latest one once it has been made. -/
theorem timers_transmit (c : Connection π) (frame : Bytes) (log : Log) (delivered : Bool)
    (inputs : List SessionInput) :
    (c.transmit frame).1.timers (log ++ { inputs, attempts := [⟨c.now, delivered, frame⟩] }) =
      (c.timers log).apply c.now (.transmit frame) := by
  simp [timers, Log.asked, Timers.apply]

/-- **Carrying out actions leaves the timers coherent** if the actions say so, whether or not the
far end takes the frames. -/
theorem coherent_execute (c : Connection π) (actions : List Action) (log : Log)
    (hlow : ∀ timer, low timer ≤ c.now + timing.period timer)
    (h : Session.Coherent timing low c.session ((c.timers log).after c.now actions)) :
    Session.Coherent timing low (c.execute actions).session
      ((c.execute actions).timers (log ++ c.executeLog actions)) := by
  fun_induction execute c actions generalizing log with
  | case1 c =>
    have hlog : c.executeLog [] = {} := by rw [executeLog, attempts]; rfl
    rw [hlog, Log.append_empty]
    exact h
  | case2 c frame rest r htaken ih =>
    have hlog : c.executeLog (.transmit frame :: rest) =
        { attempts := [⟨c.now, true, frame⟩] } ++ (c.transmit frame).1.executeLog rest := by
      rw [executeLog, attempts_of_taken htaken]
      rfl
    rw [hlog, ← Log.append_assoc]
    refine ih _ ?_ ?_
    · rwa [now_transmit]
    · rw [timers_transmit, session_transmit, now_transmit]
      exact h
  | case3 c frame rest r fault hfailed next ih =>
    have hnext : next = (c.session.step .transmitError) :=
      congrArg Session.onTransmitError (session_transmit c frame)
    have hlog : c.executeLog (.transmit frame :: rest) =
        { inputs := [.transmitError], attempts := [⟨c.now, false, frame⟩] } ++
          { r.1 with session := next.1 }.executeLog (rest ++ next.2) := by
      rw [executeLog, attempts_of_failed hfailed]
      rfl
    have hstep := h.step .transmitError (by rintro _ ⟨⟩) (fun _ _ => Nat.le_refl _) hlow
    rw [hlog, ← Log.append_assoc]
    refine ih _ ?_ ?_
    · show ∀ timer, low timer ≤ (c.transmit frame).1.now + _
      rwa [now_transmit]
    · show Session.Coherent timing low next.1 (Timers.after (c.transmit frame).1.now
        ((c.transmit frame).1.timers _) (rest ++ next.2))
      rw [timers_transmit, now_transmit, Timers.after_append, hnext]
      exact hstep
  | case4 c timer ms rest ih =>
    have hlog : c.executeLog (.arm timer ms :: rest) =
        { c with deadlines := c.deadlines.set timer (some (c.now + ms)) }.executeLog rest := by
      rw [executeLog, attempts, executeLog]
    rw [hlog]
    exact ih _ hlow h
  | case5 c timer rest ih =>
    have hlog : c.executeLog (.cancel timer :: rest) =
        { c with deadlines := c.deadlines.set timer none }.executeLog rest := by
      rw [executeLog, attempts, executeLog]
    rw [hlog]
    exact ih _ hlow h
  | case6 c event rest ih =>
    have hlog : c.executeLog (.notify event :: rest) =
        { c with board := c.board.publish c.session.status event }.executeLog rest := by
      rw [executeLog, attempts, executeLog]
    rw [hlog]
    exact ih _ hlow h

/-! ## Turns -/

/-- Lets something happen to the session, and carries out what it wants done. -/
def feed (c : Connection π) (i : SessionInput) : Connection π :=
  { c with session := (c.session.step i).1 }.execute (c.session.step i).2

/-- What happens as something happens to the session. -/
def feedLog (c : Connection π) (i : SessionInput) : Log :=
  { inputs := [i] } ++
    { c with session := (c.session.step i).1 }.executeLog (c.session.step i).2

/-- What happens as the opening is carried out. -/
def startLog (c : Connection π) : Log := { c with opening := [] }.executeLog c.opening

/-- **One turn** of a connection that runs, and what happens in it. -/
inductive Turn (c : Connection π) : Log → Connection π → Prop
  /-- A frame is handled. -/
  | frame {frame : Bytes} {rest : List Bytes} (h : c.frames = frame :: rest) :
      Turn c ({ c with frames := rest }.feedLog (.frame frame))
        ({ c with frames := rest }.handleFrame frame)
  /-- A chunk is read. -/
  | chunk {chunk : Bytes} {rest : List Bytes} (h : c.inbound = chunk :: rest) :
      Turn c {} ({ c with inbound := rest }.readChunk chunk)
  /-- The end of the stream is noticed. -/
  | streamEnd : Turn c {} c.noticeEnd
  /-- A request is taken. -/
  | request {changes : List Change} {r : Session.Step}
      (h : c.session.update changes = .ok r) :
      Turn c (c.feedLog (.update changes)) ({ c with session := r.1 }.execute r.2)
  /-- A timer that is due is served. -/
  | timer {timer : Timer} {due : Nat} (h : c.deadlines.get timer = some due) (hdue : due ≤ c.now) :
      Turn c ({ c with deadlines := c.deadlines.set timer none }.feedLog (.timer timer))
        (c.fire timer)
  | shutDown : Turn c (c.feedLog .close) c.shutDown
  /-- Time passes, but not beyond a deadline. -/
  | wait {time : Nat} (hle : c.now ≤ time)
      (hdue : ∀ timer due, c.deadlines.get timer = some due → time ≤ due) :
      Turn c {} { c with now := time }

/-- **What a run leads to** from the opening of the connection on, and what has happened in it. -/
inductive Reaches (config : Config) : Log → Connection π → Prop
  | opened {peer : π} {c : Connection π} (h : openTo config peer = .ok c) : Reaches config {} c
  /-- The far end and the clients do what they like. -/
  | outside {log : Log} {c : Connection π} (h : Reaches config log c) (peer : π)
      (frames inbound : List Bytes) (hungUp : Bool) (handles : List Bool) (board : Board) :
      Reaches config log { c with peer, frames, inbound, hungUp, handles, board }
  /-- The opening is carried out. -/
  | start {log : Log} {c : Connection π} (h : Reaches config log c) :
      Reaches config (log ++ c.startLog) c.start
  | turn {log next : Log} {c d : Connection π} (h : Reaches config log c) (hopen : c.opening = [])
      (ht : Turn c next d) : Reaches config (log ++ next) d

variable {config : Config} {log next : Log} {c d : Connection π} {i : SessionInput}

theorem handleFrame_eq_feed (c : Connection π) (frame : Bytes) :
    c.handleFrame frame = c.feed (.frame frame) := rfl

theorem execute_eq_feed {changes : List Change} {r : Session.Step}
    (h : c.session.update changes = .ok r) :
    { c with session := r.1 }.execute r.2 = c.feed (.update changes) := by
  simp only [feed, Session.step, h]

theorem fire_eq_feed {timer : Timer} {due : Nat} (h : c.deadlines.get timer = some due)
    (hdue : due ≤ c.now) :
    c.fire timer =
      { c with deadlines := c.deadlines.set timer none }.feed (.timer timer) := by
  simp only [fire, h, if_pos hdue]
  rfl

/-! ## What a turn keeps -/

@[simp] theorem opening_execute (c : Connection π) (actions : List Action) :
    (c.execute actions).opening = c.opening :=
  execute_preserves _ (fun _ _ => rfl) (fun _ _ => rfl) (fun _ _ => rfl) (fun _ _ _ _ => rfl) _ _

theorem session_feed (c : Connection π) (i : SessionInput) :
    (c.feed i).session = c.session.run (c.feedLog i).inputs := session_execute _ _

theorem running_feed (c : Connection π) (i : SessionInput) : (c.feed i).running = c.running :=
  running_execute _ _

theorem opening_feed (c : Connection π) (i : SessionInput) : (c.feed i).opening = c.opening :=
  opening_execute _ _

/-- The session sees of a turn what has happened to it. -/
theorem Turn.session (h : Turn c next d) : d.session = c.session.run next.inputs := by
  cases h with
  | @frame frame rest => exact session_feed { c with frames := rest } (.frame frame)
  | shutDown => exact session_feed c .close
  | request h =>
    rw [execute_eq_feed h]
    exact session_feed _ _
  | timer h hdue =>
    rw [fire_eq_feed h hdue]
    exact session_feed _ _
  | chunk | streamEnd | wait => rfl

theorem Turn.opening (h : Turn c next d) : d.opening = c.opening := by
  cases h with
  | @frame frame rest => exact opening_feed { c with frames := rest } (.frame frame)
  | shutDown => exact opening_feed c .close
  | request => exact opening_execute _ _
  | timer h hdue =>
    rw [fire_eq_feed h hdue]
    exact opening_feed _ _
  | chunk | streamEnd | wait => rfl

/-- A connection stops by being shut down, and that closes the session. -/
theorem Turn.stopped (h : Turn c next d) (hc : c.running = false → c.session.state = .closed)
    (hd : d.running = false) : d.session.state = .closed := by
  rw [h.session]
  cases h with
  | frame =>
    rw [handleFrame_eq_feed, running_feed] at hd
    exact Session.state_run_of_closed (hc hd) _
  | request h =>
    rw [execute_eq_feed h, running_feed] at hd
    exact Session.state_run_of_closed (hc hd) _
  | timer h hdue =>
    rw [fire_eq_feed h hdue, running_feed] at hd
    exact Session.state_run_of_closed (hc hd) _
  | shutDown => exact Session.state_run_of_closed (Session.state_close c.session) _
  | chunk | streamEnd | wait => exact hc hd

/-- Whatever happens to the session leaves the timers coherent; a timer that has run out is off. -/
theorem coherent_feed {t : Timers} (ht : c.timers log = t.expire i)
    (hdue : ∀ timer, i = .timer timer → (t.deadlines.get timer).isSome = true)
    (hraise : ∀ timer, i ≠ .timer timer → low' timer ≤ low timer)
    (hlow : ∀ timer, low' timer ≤ c.now + timing.period timer)
    (h : Session.Coherent timing low c.session t) :
    Session.Coherent timing low' (c.feed i).session ((c.feed i).timers (log ++ c.feedLog i)) := by
  have hstep := h.step i hdue hraise hlow
  rw [feedLog, ← Log.append_assoc]
  refine coherent_execute _ _ _ hlow ?_
  rw [timers_inputs]
  rw [← ht] at hstep
  exact hstep

/-- A turn leaves the timers coherent. -/
theorem Turn.coherent (h : Turn c next d)
    (hlow : ∀ timer, low timer ≤ c.now + timing.period timer)
    (hc : Session.Coherent timing low c.session (c.timers log)) :
    Session.Coherent timing low d.session (d.timers (log ++ next)) := by
  have hraise (i : SessionInput) (timer : Timer) : i ≠ .timer timer → low timer ≤ low timer :=
    fun _ => Nat.le_refl _
  cases h with
  | frame =>
    rw [handleFrame_eq_feed]
    exact coherent_feed rfl nofun (hraise _) hlow hc
  | request h =>
    rw [execute_eq_feed h]
    exact coherent_feed rfl nofun (hraise _) hlow hc
  | timer h hdue =>
    rw [fire_eq_feed h hdue]
    refine coherent_feed rfl ?_ (hraise _) hlow hc
    rintro timer ⟨⟩
    exact Option.isSome_of_eq_some h
  | shutDown => exact coherent_feed (c := c) (i := .close) rfl nofun (hraise _) hlow hc
  | chunk | streamEnd | wait =>
    rw [Log.append_empty]
    exact hc

/-- A turn takes no time, or it is a wait. -/
theorem Turn.now_cases (h : Turn c next d) :
    d.now = c.now ∨ c.now ≤ d.now ∧ d.deadlines = c.deadlines ∧
      ∀ timer due, c.deadlines.get timer = some due → d.now ≤ due := by
  cases h with
  | frame | request => exact .inl (now_execute _ _)
  | timer => exact .inl (now_fire _ _)
  | shutDown => exact .inl (now_shutDown _)
  | chunk | streamEnd => exact .inl rfl
  | wait hle hdue => exact .inr ⟨hle, rfl, hdue⟩

/-! ## Runs -/

/-- **What every run keeps.** -/
structure Sound (config : Config) (log : Log) (c : Connection π) : Prop where
  session : c.session = Session.reached config.timing log.inputs
  /-- The session of a connection that has been shut down is closed. -/
  stopped : c.running = false → c.session.state = .closed
  /-- The timers are coherent as soon as the opening has been carried out. -/
  coherent : Session.Coherent config.timing (fun _ => c.now) c.session
    ((c.timers log).after c.now c.opening)

omit [Peer π] in
theorem sound_opened {peer : π} (h : openTo config peer = .ok c) : Sound config {} c := by
  obtain ⟨-, h⟩ := check_bind_eq_ok.1 h
  cases h
  exact ⟨rfl, nofun, Session.coherent_opened fun _ => Nat.zero_le _⟩

theorem Sound.start (h : Sound config log c) : Sound config (log ++ c.startLog) c.start where
  session := by
    rw [Log.inputs_append, Session.reached_append, ← h.session]
    exact session_execute _ _
  stopped := by
    intro hd
    rw [Connection.start, running_execute] at hd
    have hclosed := h.stopped hd
    have hsession : c.start.session = c.session.run c.startLog.inputs := session_execute _ _
    rw [hsession]
    exact Session.state_run_of_closed hclosed _
  coherent := by
    have hopening : c.start.opening = [] := opening_execute _ _
    have hnow : c.start.now = c.now := now_execute _ _
    rw [hopening, hnow]
    exact coherent_execute _ _ _ (fun _ => Nat.le_add_right ..) h.coherent

theorem Sound.turn (h : Sound config log c) (hopen : c.opening = []) (ht : Turn c next d) :
    Sound config (log ++ next) d where
  session := by rw [ht.session, Log.inputs_append, Session.reached_append, ← h.session]
  stopped := ht.stopped h.stopped
  coherent := by
    have hc := h.coherent
    rw [hopen] at hc
    rw [ht.opening, hopen]
    have hd := ht.coherent (fun _ => Nat.le_add_right ..) hc
    rcases ht.now_cases with hnow | ⟨-, hdeadlines, hdue⟩
    · rw [hnow]
      exact hd
    · refine ⟨hd.timing, hd.fits, fun timer due h => hdue timer due ?_⟩
      rw [← hdeadlines]
      exact h

/-- **Every run is sound.** -/
theorem Reaches.sound (h : Reaches config log c) : Sound config log c := by
  induction h with
  | opened h => exact sound_opened h
  | outside _ _ _ _ _ _ _ ih => exact ⟨ih.session, ih.stopped, ih.coherent⟩
  | start _ ih => exact ih.start
  | turn _ hopen ht ih => exact ih.turn hopen ht

end Connection

end DomeLink
