import DomeLink.Proofs.Connection.Run
import DomeLink.Proofs.Session.Status

/-!
# The timers of a running connection

At every point of every run the timers tell the state of the session. The response timer runs
exactly while a request is outstanding, from the latest attempt to send one on; the other two run
exactly from the initial status on until the session is closed (`Timed`). So a session that is not
closed always has something to wake it up, and no request is outstanding for longer than the
response timeout, whatever the far end does: `Reaches.timed`.
-/

namespace DomeLink.Connection

variable {π : Type} [Peer π]

/-- **The timers are right** for the session of the connection, given what has happened so far. -/
structure Timed (config : Config) (log : Log) (c : Connection π) : Prop where
  /-- What has happened to the session is what the log says. -/
  session : c.session = Session.reached config.timing log.inputs
  /-- The response timer runs exactly while a request is outstanding. -/
  response : c.deadlines.response.isSome = true ↔ c.session.state.isAwaiting = true
  /-- It is due one response timeout after the latest attempt to send a frame, and that time has
  not passed. -/
  outstanding : c.session.state.isAwaiting = true → ∃ latest, log.attempts.getLast? = some latest ∧
    c.deadlines.response = some (latest.time + config.timing.responseTimeoutMs.toNat) ∧
    c.now ≤ latest.time + config.timing.responseTimeoutMs.toNat
  /-- The other timers run exactly from the initial status on until the session is closed. -/
  polling : ∀ timer, timer ≠ .response → ((c.deadlines.get timer).isSome = true ↔
    (Session.opened config.timing).1.acceptedStatuses log.inputs ≠ [] ∧ c.session.state ≠ .closed)
  /-- No timer runs after the end. -/
  stopped : c.running = false → c.deadlines = {}
  /-- Some timer runs before the end. -/
  armed : c.session.state ≠ .closed → ∃ timer, (c.deadlines.get timer).isSome = true

variable {config : Config} {log : Log} {c : Connection π}

/-- A session is established from the first reply on that it accepts, until it is closed. -/
theorem isEstablished_reached_iff (timing : Timing) (inputs : List SessionInput) :
    (Session.reached timing inputs).state.isEstablished = true ↔
      (Session.opened timing).1.acceptedStatuses inputs ≠ [] ∧
        (Session.reached timing inputs).state ≠ .closed := by
  have htracks := Session.tracks_reached timing inputs
  generalize Session.reached timing inputs = s at htracks ⊢
  have hfirst := htracks.first
  cases hs : s.state with
  | closed => simp [SessionState.isEstablished]
  | awaitInitialStatus => simpa [SessionState.isEstablished, hs] using hfirst
  | idle | awaitStatus | awaitCommandAck => simpa [SessionState.isEstablished, hs] using hfirst

/-- **The timers are right in every run**, as soon as the opening has been carried out. -/
theorem Reaches.timed (h : Reaches config log c) (hopen : c.opening = []) :
    Timed config log c := by
  have hsound := h.sound
  have hcoherent := hsound.coherent
  rw [hopen] at hcoherent
  have hfits : c.session.Fits (c.timers log) := hcoherent.fits
  have hestablished := isEstablished_reached_iff config.timing log.inputs
  rw [← hsound.session] at hestablished
  constructor
  case session => exact hsound.session
  case response => exact hfits.response_isSome_iff
  case outstanding =>
    intro hawaiting
    obtain ⟨time, hasked, hresponse⟩ := hfits.response_of_awaiting hawaiting
    obtain ⟨latest, hlatest, rfl⟩ := Option.map_eq_some_iff.1 hasked
    rw [hcoherent.timing] at hresponse
    exact ⟨latest, hlatest, hresponse, hcoherent.notBefore .response _ hresponse⟩
  case polling =>
    intro timer htimer
    rw [← hestablished]
    cases timer with
    | response => exact absurd rfl htimer
    | statusPoll => exact iff_of_eq (congrArg (· = true) hfits.statusPoll)
    | heartbeat => exact iff_of_eq (congrArg (· = true) hfits.heartbeat)
  case stopped =>
    intro hstopped
    exact hfits.deadlines_of_closed (hsound.stopped hstopped)
  case armed => exact hfits.exists_armed

/-- The initial status has arrived at the very beginning, and the first command has been sent. -/
theorem timed_of_initial_status :
    ∃ (log : Log) (c : Connection Script), Reaches {} log c ∧ c.opening = [] ∧
      c.session.state = .awaitCommandAck ∧ log.attempts.length = 2 ∧
      c.deadlines = ⟨some 5000, some 200, some 60000⟩ ∧ Timed {} log c := by
  have hdecode : Status.decode (Status.encode {}).dropLast = .ok {} := by decide +kernel
  have hopened : openTo {} ({} : Script) = .ok _ := rfl
  have hstarted := (Reaches.opened hopened).start
  have harrived := hstarted.outside {} [(Status.encode {}).dropLast] [] false [] {}
  have hframe := harrived.turn (by simp [start]) (.frame rfl)
  have htimed := hframe.timed (by simp [handleFrame, start])
  refine ⟨_, _, hframe, by simp [handleFrame, start], ?_, ?_, ?_, htimed⟩
  all_goals
    simp [feedLog, startLog, start, handleFrame, execute, executeLog, attempts, transmit,
      Session.step, Session.opened, Session.onFrame, Session.initialStatus, hdecode,
      Session.requestStatus, Session.sendCommand, Session.arm, Line.transmit, Line.register,
      Line.ofCapacity, Peer.send, Deadlines.set, Timing.period]

end DomeLink.Connection
