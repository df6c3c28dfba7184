import DomeLink.Simulator

/-!
# The far end

Model of `Transport` (`transport` in `plc-driver`; specification, sections 6 and 12), together with
the controller behind it and the stream of bytes that comes back.

A `Peer` is what frames are sent to. It may answer at once, in chunks, or fail to take the frame.
There are two: the simulated controller, and one without behaviour of its own, `Script`, which only
notes what was sent and can be told to fail.

Out of scope: the serial port with its reader, and the names of transports.
-/

namespace DomeLink

/-- What becomes of a frame that is sent. -/
structure Sent (π : Type) where
  peer : π
  /-- The chunks that arrive in answer. -/
  replies : List Bytes := []
  /-- Why the frame could not be sent. -/
  fault : Option TransportFault := none

/-- A far end: what it makes of a frame, given the time in milliseconds. -/
class Peer (π : Type) where
  send : π → Nat → Bytes → Sent π

instance : Peer Simulator where
  send p _ frame :=
    match p.transmit true frame with
    | (after, .ok chunks) => { peer := after, replies := chunks }
    | (after, .error fault) => { peer := after, fault := some fault }

/-- A frame that was to be sent. -/
structure Attempt where
  time : Nat
  /-- The frame was taken. -/
  delivered : Bool
  frame : Bytes
  deriving DecidableEq, Repr

/-- A far end that is operated from outside. -/
structure Script where
  /-- Frames are not taken. -/
  failing : Bool := false
  /-- What has been sent, in order. -/
  attempts : List Attempt := []
  deriving DecidableEq, Repr

instance : Peer Script where
  send p now frame :=
    { peer := { p with attempts := p.attempts ++ [⟨now, !p.failing, frame⟩] }
      fault := if p.failing then some .writeFailed else none }

end DomeLink
