import DomeLink.Command.Change
import DomeLink.Command.Codec
import DomeLink.Command.Reconcile
import DomeLink.Config.Basic
import DomeLink.Status.Codec

/-!
# Sessions

Model of `Session` (`session` in `plc-driver`; specification, sections 4.3 and 5): `open`,
`on_frame`, `on_timer`, `update_command`, `on_transmit_error` and `close`, with the actions that
each of them returns.

A session is the host's side of the conversation with the controller. It takes turns between asking
for the status and sending the command, with one request outstanding at most, and performs nothing
itself: everything that happens to it gives the session after it and a list of actions, to be
carried out in their order.

* `Session.opened` asks for the initial status, again and again until one arrives.
* The initial status seeds the command, which is then sent for the first time.
* From then on two timers run: `statusPoll` asks for the status where the session is idle,
  `heartbeat` sends the command. The `response` timer runs while a request is outstanding.
* A command that is asked for while a request is outstanding waits (`commandPending`) for the end
  of the exchange, whether that succeeds or fails.
* `commsOk` becomes true with an acknowledgement and false with a failed exchange.

Out of scope: log lines, and with them the reason why an exchange was given up, which nothing else
reads. `update` takes a list of changes for what may be any function of the command.
-/

namespace DomeLink

/-- The timers of a session. -/
inductive Timer
  /-- Runs while a request is outstanding. -/
  | response
  /-- The next status request. -/
  | statusPoll
  /-- The next command in any case. -/
  | heartbeat
  deriving DecidableEq, Repr

namespace Timer

/-- All timers, in the order in which they are served when several are due. -/
def all : List Timer := [response, statusPoll, heartbeat]

/-- The place of the timer in that order. -/
def index : Timer → Nat
  | response => 0
  | statusPoll => 1
  | heartbeat => 2

end Timer

/-- What a session is waiting for. -/
inductive SessionState
  | idle
  | awaitInitialStatus
  | awaitStatus
  | awaitCommandAck
  | closed
  deriving DecidableEq, Repr

namespace SessionState

/-- All states. -/
def all : List SessionState := [idle, awaitInitialStatus, awaitStatus, awaitCommandAck, closed]

/-- A request is outstanding. -/
def isAwaiting : SessionState → Bool
  | awaitInitialStatus | awaitStatus | awaitCommandAck => true
  | idle | closed => false

end SessionState

/-- What a session tells its clients. -/
inductive SessionEvent
  /-- A valid status has been taken over. -/
  | statusUpdated
  /-- The controller has begun, or ceased, to answer. -/
  | commsChanged (ok : Bool)
  /-- The handset byte has changed. -/
  | handsetChanged (old new : UInt8)
  deriving DecidableEq, Repr

/-- What a session wants done. -/
inductive Action
  | transmit (frame : Bytes)
  /-- Starts the timer, or starts it anew. -/
  | arm (timer : Timer) (ms : Nat)
  | cancel (timer : Timer)
  | notify (event : SessionEvent)
  deriving DecidableEq, Repr

namespace Action

/-- The action sends a frame. -/
def isTransmit : Action → Bool
  | transmit _ => true
  | _ => false

/-- The number of frames that the actions send. -/
def sends (actions : List Action) : Nat := actions.countP isTransmit

@[simp] theorem sends_nil : sends [] = 0 := rfl

@[simp] theorem sends_cons (a : Action) (as : List Action) :
    sends (a :: as) = sends as + a.isTransmit.toNat := by
  cases h : a.isTransmit <;> simp [sends, h]

@[simp] theorem sends_append (as bs : List Action) : sends (as ++ bs) = sends as + sends bs := by
  simp [sends]

end Action

/-- The host's side of the conversation. -/
structure Session where
  timing : Timing
  state : SessionState := .awaitInitialStatus
  /-- A command is to be sent when the exchange ends. -/
  commandPending : Bool := false
  commsOk : Bool := false
  /-- The one-shot bits of the command that waits for its acknowledgement. -/
  inFlight : OneShot := ∅
  status : Status := {}
  /-- The frame that the status was last taken from. -/
  rawStatus : Bytes := []
  command : Command := {}
  deriving DecidableEq, Repr

/-- The period of a timer, in milliseconds. -/
def Timing.period (t : Timing) : Timer → Nat
  | .response => t.responseTimeoutMs.toNat
  | .statusPoll => t.statusPollMs.toNat
  | .heartbeat => t.heartbeatMs.toNat

namespace Session

/-- A session after something has happened to it, and what it wants done. -/
abbrev Step := Session × List Action

/-! ## Parts of a step -/

/-- Starts a timer. -/
def arm (s : Session) (timer : Timer) : Action := .arm timer (s.timing.period timer)

/-- Asks for the status; the reply is awaited in the given state. -/
def requestStatus (s : Session) (awaiting : SessionState) : Step :=
  ({ s with state := awaiting }, [s.arm .response, .transmit Frame.statusRequest])

/-- Sends the command, with all one-shot bits that are set. -/
def sendCommand (s : Session) : Step :=
  ({ s with
      inFlight := s.command.oneShots
      command := s.command.forgetRequested
      commandPending := false
      state := .awaitCommandAck },
    [s.arm .response, .transmit s.command.encode])

/-- Ends an exchange: sends the command that waited, or idles. -/
def resolve (s : Session) : Step :=
  if s.commandPending then s.sendCommand else ({ s with state := .idle }, [])

/-- Sends the command now, or as soon as the exchange ends. -/
def issueCommand (s : Session) : Step :=
  match s.state with
  | .idle => s.sendCommand
  | .closed => (s, [])
  | _ => ({ s with commandPending := true }, [])

/-- What is told about the controller answering or not, where that is news. -/
def commsEdge (s : Session) (ok : Bool) : List Action :=
  if s.commsOk = ok then [] else [.notify (.commsChanged ok)]

/-- Gives up the exchange. -/
def failExchange (s : Session) : Step :=
  let r := { s with inFlight := ∅, commsOk := false }.resolve
  (r.1, .cancel .response :: s.commsEdge false ++ r.2)

/-! ## Frames -/

/-- Takes in the initial status; a frame that is none changes nothing. -/
def initialStatus (s : Session) (frame : Bytes) : Step :=
  match Status.decode frame with
  | .error _ => (s, [])
  | .ok status =>
    let r := { s with status, rawStatus := frame, command := s.command.seed status }.sendCommand
    (r.1, [.cancel .response, .notify .statusUpdated, s.arm .statusPoll, s.arm .heartbeat] ++ r.2)

/-- What is told about the handset. -/
def handsetEdge (changed : List StatusField) (old new : UInt8) : List Action :=
  if StatusField.handset ∈ changed then [.notify (.handsetChanged old new)] else []

/-- Takes in a status; a frame that is none ends the exchange without success. -/
def statusReply (s : Session) (frame : Bytes) : Step :=
  match s.status.applyChanges s.rawStatus frame with
  | .error _ => s.failExchange
  | .ok (status, changed) =>
    let r := { s with
      status
      rawStatus := frame
      command := s.command.confirm status
      commandPending := s.commandPending || s.command.isConfirmedBy status }.resolve
    (r.1, .cancel .response :: handsetEdge changed s.status.handset status.handset ++
      [.notify .statusUpdated, s.arm .statusPoll] ++ r.2)

/-- Takes in an acknowledgement: the one-shot bits that it answers are cleared, except those asked
for anew. A frame that is none ends the exchange without success. -/
def commandAck (s : Session) (frame : Bytes) : Step :=
  match Frame.checkReply .commandAck frame with
  | .error _ => s.failExchange
  | .ok () =>
    let r := { s with
      command := s.command.clearOneShots (s.inFlight.erase s.command.requested)
      inFlight := ∅
      commsOk := true }.resolve
    (r.1, .cancel .response :: s.commsEdge true ++ s.arm .heartbeat :: r.2)

/-! ## What happens to a session -/

/-- A new session, which asks for the initial status. -/
def opened (timing : Timing) : Step := { timing : Session }.requestStatus .awaitInitialStatus

/-- A frame has arrived. -/
def onFrame (s : Session) (frame : Bytes) : Step :=
  match s.state with
  | .awaitInitialStatus => s.initialStatus frame
  | .awaitStatus => s.statusReply frame
  | .awaitCommandAck => s.commandAck frame
  | .idle | .closed => (s, [])

/-- The response timer has run out. -/
def onResponseTimeout (s : Session) : Step :=
  match s.state with
  | .awaitInitialStatus => s.requestStatus .awaitInitialStatus
  | .awaitStatus | .awaitCommandAck => s.failExchange
  | .idle | .closed => (s, [])

/-- The time for a status request has come. -/
def onStatusPoll (s : Session) : Step :=
  if s.state = .idle then
    let r := s.requestStatus .awaitStatus
    (r.1, s.arm .statusPoll :: r.2)
  else (s, [s.arm .statusPoll])

/-- The time for a command has come. -/
def onHeartbeat (s : Session) : Step :=
  let r := s.issueCommand
  (r.1, s.arm .heartbeat :: r.2)

/-- A timer has run out. -/
def onTimer (s : Session) (timer : Timer) : Step :=
  if s.state = .closed then (s, [])
  else
    match timer with
    | .response => s.onResponseTimeout
    | .statusPoll => s.onStatusPoll
    | .heartbeat => s.onHeartbeat

/-- A client changes the command; all changes are made, or none. -/
def update (s : Session) (changes : List Change) : Outcome Step := do
  let command ← s.command.changeAll changes
  return { s with command }.issueCommand

/-- A frame could not be sent. While the initial status is awaited the response timer sees to it. -/
def onTransmitError (s : Session) : Step :=
  match s.state with
  | .awaitStatus | .awaitCommandAck => s.failExchange
  | .awaitInitialStatus | .idle | .closed => (s, [])

/-- Ends the session. -/
def close (s : Session) : Step :=
  if s.state = .closed then (s, [])
  else ({ s with state := .closed, commandPending := false }, Timer.all.map .cancel)

end Session

end DomeLink
