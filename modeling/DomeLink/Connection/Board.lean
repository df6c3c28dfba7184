import DomeLink.Session.Basic

/-!
# What clients see

Model of `Shared` with `publish` (`driver` in `plc-driver`), of the channel that holds the last
status, and of `PlcEvents` with the edges of `handle` (specification, sections 6 and 12).

The `Board` holds what a running session has published: the last status, whether the controller
answers, and three marks that clients wait for. Two of the marks are edges, set by an event and
cleared by the client that takes them; the third, `closed`, stays.

A handset listener is called with the old and the new byte. It may name a successor, which takes
its place after the first call. Naming one takes a handle, so a listener holds one until then.

Out of scope: the waking of waiting tasks, and what a listener does. A listener is data: its calls
are recorded, and of all that it could do when called there is only the naming of a successor.
-/

namespace DomeLink

/-- The flag table of `PlcEvents`. -/
abbrev PlcEvents.table : FlagTable :=
  { typeName := "PlcEvents", width := 8,
    names := [("STATUS_AVAILABLE", 0x1), ("COMMS_CHANGED", 0x2), ("CLOSED", 0x4)] }

/-- What a client waits for. -/
abbrev PlcEvents := Flags PlcEvents.table

namespace PlcEvents

def statusAvailable : PlcEvents := ⟨0x1⟩
def commsChanged : PlcEvents := ⟨0x2⟩
def closed : PlcEvents := ⟨0x4⟩

end PlcEvents

/-- Who is told of handset changes. -/
structure Listener where
  tag : String
  /-- The tag of the listener that takes over after the first call. -/
  successor : Option String := none
  deriving DecidableEq, Repr

/-- The listener holds a handle, with which it will name its successor. -/
def Listener.holdsHandle (l : Listener) : Bool := l.successor.isSome

/-- A call of the handset listener. -/
structure HandsetCall where
  tag : String
  old : UInt8
  new : UInt8
  deriving DecidableEq, Repr

/-- What a session has published. -/
structure Board where
  status : Status := {}
  /-- The number of statuses published so far. -/
  version : Nat := 0
  /-- A status has been published since a client last asked. -/
  statusAvailable : Bool := false
  /-- `commsOk` has changed since a client last asked. -/
  commsChanged : Bool := false
  commsOk : Bool := false
  closed : Bool := false
  listener : Option Listener := none
  /-- The calls of handset listeners so far. -/
  calls : List HandsetCall := []
  /-- The events published so far. -/
  published : List SessionEvent := []
  deriving DecidableEq, Repr

namespace Board

/-- The marks that are set. -/
def events (b : Board) : PlcEvents :=
  (∅ : PlcEvents)
    |>.assign PlcEvents.statusAvailable b.statusAvailable
    |>.assign PlcEvents.commsChanged b.commsChanged
    |>.assign PlcEvents.closed b.closed

/-- Calls the listener, if there is one. -/
def callListener (b : Board) (old new : UInt8) : Board :=
  match b.listener with
  | none => b
  | some l =>
    { b with
      listener := some (match l.successor with
        | some next => { tag := next }
        | none => l)
      calls := b.calls ++ [⟨l.tag, old, new⟩] }

/-- Tells clients of an event of a session that is in the given status. -/
def tell (b : Board) (status : Status) : SessionEvent → Board
  | .statusUpdated => { b with status, version := b.version + 1, statusAvailable := true }
  | .commsChanged ok => { b with commsOk := ok, commsChanged := true }
  | .handsetChanged old new => b.callListener old new

/-- Publishes an event of a session that is in the given status. -/
def publish (b : Board) (status : Status) (event : SessionEvent) : Board :=
  { b with published := b.published ++ [event] }.tell status event

/-- Takes the mark of a new status. -/
def takeStatusAvailable (b : Board) : Board × Bool :=
  ({ b with statusAvailable := false }, b.statusAvailable)

/-- Takes the mark of a change of `commsOk`. -/
def takeCommsChanged (b : Board) : Board × Bool :=
  ({ b with commsChanged := false }, b.commsChanged)

end Board

end DomeLink
