import DomeLink.Command.Codec
import DomeLink.Line
import DomeLink.Status.Codec

/-!
# The simulated controller

Model of `MockPlc` and `MockTransport` (`mock` in `plc-driver`; specification, section 12).

A controller without hardware: it answers requests as the real one does and reaches every commanded
state at once. `Command.apply` is its hardware, `Simulator.receive` its protocol; a frame that is no
valid request changes nothing and gets no reply.

Replies travel in chunks of a few bytes. Two switches spoil them: a `silent` simulator sends none,
a `corrupt` one sends them with a wrong check field. Neither switch touches the hardware.

Out of scope: the lock around the state, and log lines. Setting a switch or changing the hardware
from outside is an update of the fields.
-/

namespace DomeLink

/-! ## The hardware -/

/-- What a wheel and its slot come to. -/
def WheelCommand.apply (c : WheelCommand) (target : UInt8) (wheel : WheelStatus × UInt8) :
    WheelStatus × UInt8 :=
  let status :=
    if c.meets (WheelCommand.init.insert WheelCommand.reset) then
      WheelStatus.initialised.insert WheelStatus.centered
    else wheel.1
  if c.has WheelCommand.go then (status.insert WheelStatus.centered, target)
  else (status, wheel.2)

/-- What the flags of the focuser come to. -/
def FocusCommand.apply (c : FocusCommand) (focus : FocusStatus) : FocusStatus :=
  let status := if c.has FocusCommand.reset then FocusStatus.initialised else focus
  status.assign FocusStatus.moving
    (!c.has FocusCommand.goto && c.meets FocusCommand.byHand)

namespace Command

/-- What the flags of the dome come to. -/
def domeStatus (c : Command) : DomeStatus :=
  (∅ : DomeStatus)
    |>.assign DomeStatus.movingLeft (c.dome.has DomeCommand.moveLeft)
    |>.assign DomeStatus.movingRight (c.dome.has DomeCommand.moveRight)
    |>.assign DomeStatus.guiding (c.dome.has DomeCommand.guide)

/-- The hardware after a command, given that before. -/
def apply (c : Command) (s : Status) : Status :=
  { s with
    domeAzimuth := if c.dome.has DomeCommand.goto then c.domeTarget else s.domeAzimuth
    dome := c.domeStatus
    shutter :=
      if c.shutter.has ShutterCommand.opening then ShutterStatus.opened
      else if c.shutter.has ShutterCommand.closing then ShutterStatus.closed
      else s.shutter
    dropout :=
      if c.dropout.has DropoutCommand.opening then DropoutStatus.opened
      else if c.dropout.has DropoutCommand.closing then DropoutStatus.closed
      else s.dropout
    focus := c.focus.apply s.focus
    focusPosition := if c.focus.has FocusCommand.goto then c.focusTarget else s.focusPosition
    aperture := (c.aperture.apply c.apertureSlot (s.aperture, s.apertureSlot)).1
    apertureSlot := (c.aperture.apply c.apertureSlot (s.aperture, s.apertureSlot)).2
    filter := (c.filter.apply c.filterSlot (s.filter, s.filterSlot)).1
    filterSlot := (c.filter.apply c.filterSlot (s.filter, s.filterSlot)).2
    acqMirror :=
      if c.acqMirror.has AcqMirrorCommand.view then AcqMirrorStatus.view
      else if c.acqMirror.has AcqMirrorCommand.measure then AcqMirrorStatus.measure
      else s.acqMirror
    eht := c.eht
    instrumentShutter :=
      s.instrumentShutter.assign InstrumentShutterStatus.opened
        (c.misc.has MiscCommand.instrumentShutterOpen)
    domeFlopMin := c.domeFlopMin
    domeFlopMax := c.domeFlopMax }

end Command

/-! ## The protocol -/

/-- A simulated controller. -/
structure Simulator where
  /-- The hardware. -/
  status : Status := {}
  /-- The number of status requests so far. -/
  requests : Nat := 0
  /-- The commands so far, in their order. -/
  commands : List Command := []
  silent : Bool := false
  corrupt : Bool := false
  /-- The greatest length of a chunk, at least one. -/
  chunk : Nat := 16
  deriving DecidableEq, Repr

namespace Simulator

/-- Sets the greatest length of a chunk; zero counts as one. -/
def setChunk (p : Simulator) (size : Nat) : Simulator := { p with chunk := max size 1 }

/-- The last command. -/
def lastCommand? (p : Simulator) : Option Command := p.commands.getLast?

/-- The simulator after a frame, and the reply that an unspoiled one sends. -/
def receive (p : Simulator) (frame : Bytes) : Simulator × Option Bytes :=
  match Frame.checkRequest frame with
  | .ok .status => ({ p with requests := p.requests + 1 }, some p.status.encode)
  | .ok .command =>
    match Command.decode frame with
    | .ok c =>
      ({ p with status := c.apply p.status, commands := p.commands ++ [c] },
        some (Frame.commandAck 0))
    | .error _ => (p, none)
  | .error _ => (p, none)

/-- The size of the chunks stays as it is. -/
theorem chunk_receive (p : Simulator) (frame : Bytes) :
    (p.receive frame).1.chunk = p.chunk := by
  unfold receive
  split
  · rfl
  · split <;> rfl
  · rfl

/-- The bytes with another digit in the check field. -/
def spoil (reply : Bytes) : Bytes :=
  reply.modify (reply.length - 4) fun b => if b = '0'.toUInt8 then '1'.toUInt8 else '0'.toUInt8

/-- The reply as the switches leave it. -/
def switched (p : Simulator) (reply : Bytes) : Option Bytes :=
  if p.silent then none else some (if p.corrupt then spoil reply else reply)

/-- The chunks in which the simulator answers. -/
def replyChunks (p : Simulator) (reply : Option Bytes) : List Bytes :=
  ((reply.bind p.switched).map (Bytes.chunks p.chunk)).getD []

/-- Takes a frame and answers it. Where nobody listens a reply cannot be sent, but the frame has
been taken all the same. -/
def transmit (p : Simulator) (listening : Bool) (frame : Bytes) :
    Simulator × Except TransportFault (List Bytes) :=
  let (after, reply) := p.receive frame
  match after.replyChunks reply with
  | [] => (after, .ok [])
  | chunks => (after, if listening then .ok chunks else .error .replyChannelClosed)

end Simulator

end DomeLink
