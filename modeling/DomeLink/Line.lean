import DomeLink.Wire.Assembler

/-!
# The line

Model of `LineDiscipline` (`discipline` in `plc-driver`; specification, section 4.1) and of
`TransportError` in `error`.

A `Line` joins the parties that exchange frames: a transport, which takes what is sent, and a
handler, which gets the frames that arrive. There is at most one of each at a time. What a transport
or a handler is, is left open: the line only says whom bytes go to.

Out of scope: the names of transports, log lines, and the faults of a serial port. Of faults of a
device there are two, a closed reply channel and a write that fails.
-/

namespace DomeLink

/-- Why bytes are not sent. -/
inductive TransportFault
  | notBound
  | alreadyBound
  /-- Nobody reads the replies of the simulator any more. -/
  | replyChannelClosed
  /-- The device does not take the bytes. -/
  | writeFailed
  deriving DecidableEq, Repr

namespace TransportFault

/-- The text of the fault. -/
def message : TransportFault → String
  | notBound => "no transport bound"
  | alreadyBound => "a transport is already bound"
  | replyChannelClosed => "IO error: mock reply channel closed"
  | writeFailed => "IO error: write failed"

end TransportFault

/-- An assembler with a transport of type `τ` and a handler of type `η`. -/
structure Line (τ η : Type) where
  assembler : Assembler
  transport : Option τ := none
  handler : Option η := none
  deriving Repr

namespace Line

variable {τ η : Type}

/-- A line with nobody on it. -/
def ofCapacity (capacity : Nat) : Line τ η := { assembler := { capacity } }

/-- There is a transport. -/
def isBound (l : Line τ η) : Bool := l.transport.isSome

/-- Puts a transport on the line, which must have none. -/
def bind (l : Line τ η) (t : τ) : Except TransportFault (Line τ η) :=
  if l.isBound then .error .alreadyBound else .ok { l with transport := some t }

/-- Takes the transport off the line, and drops the frame in progress with it. -/
def unbind (l : Line τ η) : Line τ η × Option τ :=
  ({ l with assembler := l.assembler.reset, transport := none }, l.transport)

/-- Puts a handler on the line in place of any other. -/
def register (l : Line τ η) (h : η) : Line τ η := { l with handler := some h }

/-- Takes the handler off the line. -/
def unregister (l : Line τ η) : Line τ η × Option η := ({ l with handler := none }, l.handler)

/-- What arriving bytes come to. -/
structure Receipt (τ η : Type) where
  line : Line τ η
  /-- The number of frames that the bytes completed. -/
  count : Nat
  /-- Each frame with the handler that gets it; without a handler the frames are dropped. -/
  delivered : List (η × Bytes)

/-- Takes in bytes that have arrived. -/
def receive (l : Line τ η) (chunk : Bytes) : Receipt τ η where
  line := { l with assembler := (l.assembler.push chunk).1 }
  count := l.assembler.completed chunk
  delivered :=
    match l.handler with
    | some h => (l.assembler.push chunk).2.map (h, ·)
    | none => []

/-- The transport that gets bytes to send, and the bytes. -/
def transmit (l : Line τ η) (bytes : Bytes) : Except TransportFault (τ × Bytes) :=
  match l.transport with
  | some t => .ok (t, bytes)
  | none => .error .notBound

end Line

end DomeLink
