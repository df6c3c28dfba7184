import DomeLink.Connection.Clock
import DomeLink.Connection.Fault

/-!
# Clients of a connection

Model of `PlcHandle` (`handle` in `plc-driver`; specification, sections 6 and 12). Its mutators are
`request` with one change each, and its two bundled actions `resetAcquisition` and `shutLightOut`.

What a client can do with a connection. Clients hold handles; a handle can be cloned, and when
nobody holds one any more the session shuts down, as it does when a client closes it. After that
the status stays readable and requests are refused. A listener that is to name a successor holds a
handle as well, so the session outlives the last client until that listener has been called.

Something happens only where a client lets it happen: by a request, by closing, by letting time pass
or by what it does at the far end. Looking, taking a mark and naming a listener do not, so a client
that does these first finds a session that has not begun.

A request is done when the session has made the change, not when the controller has answered. All
that has arrived before it is handled first.

Out of scope: the opening of a serial port, and clients that stop waiting for the answer to a
request.
-/

namespace DomeLink

namespace Connection

variable {π : Type} [Peer π]

/-! ## Opening and closing -/

/-- Opens a connection to a far end; the configuration is checked first. The session is still to
begin. -/
def openTo (config : Config) (peer : π) : Except ConfigFault (Connection π) := do
  config.check
  let r := Session.opened config.timing
  let line : Line Unit Unit := (Line.ofCapacity config.rxCapacity.toNat).register ()
  let line := { line with transport := some () }
  return { session := r.1, opening := r.2, line, peer, safeSlots := config.safeSlots }

/-- Ends the session, if it has not ended yet; what can still happen happens first. -/
def close (c : Connection π) : Connection π := if c.running then c.settle.shutDown else c

/-- Adds a handle, which is nobody's if there is none to clone. -/
def clone (c : Connection π) : Connection π := { c with handles := c.handles ++ [c.isHeld] }

/-- Drops a handle. If it was the last one, the session ends. -/
def dropHandle (c : Connection π) (index : Nat) : Connection π :=
  let c := { c with handles := c.handles.set index false }
  if c.isAbandoned then c.settle else c

/-- The far end closes the inbound stream. -/
def hangUp (c : Connection π) : Connection π := { c with hungUp := true }.settle

/-- A chunk is written into the inbound stream. -/
def arrive (c : Connection π) (chunk : Bytes) : Connection π :=
  { c with inbound := c.inbound ++ [chunk] }.settle

/-! ## Requests -/

/-- Asks for changes to the command: all of them are made, or none. -/
def request (c : Connection π) (changes : List Change) :
    Connection π × Except ClientFault Unit :=
  if c.running then
    let c := c.settle
    match c.session.update changes with
    | .ok r => (({ c with session := r.1 }.execute r.2).drain, .ok ())
    | .error fault => (c, .error (.protocol fault))
  else (c, .error .sessionClosed)

/-- Resets the acquisition device with its mirror and both wheels. -/
def resetAcquisition (c : Connection π) : Connection π × Except ClientFault Unit :=
  c.request Change.resetAcquisition

/-- Shuts the light out, with the wheels on their safe slots. -/
def shutLightOut (c : Connection π) : Connection π × Except ClientFault Unit :=
  c.request (Change.shutLightOut c.safeSlots.aperture c.safeSlots.filter)

/-- Registers the handset listener in place of any other. -/
def listen (c : Connection π) (listener : Listener) : Connection π :=
  { c with board := { c.board with listener := some listener } }

/-! ## Looking and waiting -/

/-- Takes the mark of a new status. -/
def takeStatusAvailable (c : Connection π) : Connection π × Bool :=
  ({ c with board := c.board.takeStatusAvailable.1 }, c.board.takeStatusAvailable.2)

/-- Takes the mark of a change of `commsOk`. -/
def takeCommsChanged (c : Connection π) : Connection π × Bool :=
  ({ c with board := c.board.takeCommsChanged.1 }, c.board.takeCommsChanged.2)

/-- Waits until a mark is set. -/
def waitEvent (c : Connection π) (limit : Nat) : Connection π × Option PlcEvents :=
  let r := c.waitUntil (fun c => !c.board.events.isEmpty) limit
  (r.1, if r.2 then some r.1.board.events else none)

/-- Waits until a status is published that is newer than the present one. -/
def waitStatus (c : Connection π) (limit : Nat) : Connection π × Option Status :=
  let r := c.waitUntil (fun d => c.board.version < d.board.version) limit
  (r.1, if r.2 then some r.1.board.status else none)

end Connection

/-- One who looks at the published statuses from time to time. -/
structure Watcher where
  /-- The number of statuses published up to the last look. -/
  seen : Nat := 0
  deriving DecidableEq, Repr

/-- Looks at the last status and tells whether it is new, while the session runs. -/
def Watcher.look {π : Type} (w : Watcher) (c : Connection π) : Option (Watcher × Bool × Status) :=
  if c.running then some (⟨c.board.version⟩, w.seen ≠ c.board.version, c.board.status) else none

end DomeLink
