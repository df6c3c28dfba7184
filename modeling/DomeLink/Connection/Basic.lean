import DomeLink.Connection.Board
import DomeLink.Connection.Peer
import DomeLink.Session.Sends

/-!
# Connections

Model of `Driver` (`driver` in `plc-driver`; specification, sections 5 and 12): what it owns and
shares with its clients, `execute`, `next_deadline` and `shutdown`. It does one thing at a time, as
the single task that owns all of it.

A `Connection` is a session at work: the session with its line and its timers, what it has
published, the far end, and the bytes on their way from there. Time is a number of milliseconds and
passes only where a client lets it pass. A session has not begun before its `opening` has been
carried out.

`execute` carries out the actions of a session. A frame that cannot be sent is reported to the
session at once; what it wants done then comes after the actions that are still to do. That ends,
because a failed transmission makes a session send what was waiting and nothing else.

`shutDown` ends the session. Besides a client who asks for it, what makes a session end is that it
is abandoned: there is no handle left with which anybody could ask for anything.

Out of scope: tasks, channels, locks and log lines. What waits in a channel is a list here, and the
answer to a request is the result of the request.
-/

namespace DomeLink

/-- When the timers that run are due. -/
structure Deadlines where
  response : Option Nat := none
  statusPoll : Option Nat := none
  heartbeat : Option Nat := none
  deriving DecidableEq, Repr

namespace Deadlines

/-- When a timer is due. -/
def get (d : Deadlines) : Timer → Option Nat
  | .response => d.response
  | .statusPoll => d.statusPoll
  | .heartbeat => d.heartbeat

/-- Starts or stops a timer. -/
def set (d : Deadlines) (timer : Timer) (due : Option Nat) : Deadlines :=
  match timer with
  | .response => { d with response := due }
  | .statusPoll => { d with statusPoll := due }
  | .heartbeat => { d with heartbeat := due }

/-- When the first timer is due. -/
def earliest (d : Deadlines) : Option Nat := (Timer.all.filterMap d.get).min?

end Deadlines

/-- A session at work, with a far end of type `π`. -/
structure Connection (π : Type) where
  /-- The time since the connection was opened, in milliseconds. -/
  now : Nat := 0
  session : Session
  /-- What the session wants done at its beginning, as long as that has not been carried out. -/
  opening : List Action := []
  line : Line Unit Unit
  /-- Frames that have arrived and are still to be handled. -/
  frames : List Bytes := []
  deadlines : Deadlines := {}
  board : Board := {}
  /-- The session has not been shut down. -/
  running : Bool := true
  /-- The end of the inbound stream has not been noticed. -/
  reading : Bool := true
  peer : π
  /-- The frames that have been handed to the far end so far. -/
  sent : List Bytes := []
  /-- Chunks that have been sent from the far end and are still to be read. -/
  inbound : List Bytes := []
  /-- The far end has closed the inbound stream. -/
  hungUp : Bool := false
  /-- Which of the handles given out are still held. -/
  handles : List Bool := [true]
  safeSlots : SafeSlots := {}
  deriving Repr

namespace Connection

variable {π : Type} [Peer π]

/-- Sends a frame to the transport on the line. -/
def transmit (c : Connection π) (frame : Bytes) : Connection π × Option TransportFault :=
  match c.line.transmit frame with
  | .error fault => (c, some fault)
  | .ok (_, bytes) =>
    let r := Peer.send c.peer c.now bytes
    ({ c with peer := r.peer, sent := c.sent ++ [bytes], inbound := c.inbound ++ r.replies },
      r.fault)

@[simp] theorem session_transmit (c : Connection π) (frame : Bytes) :
    (c.transmit frame).1.session = c.session := by
  unfold transmit
  split <;> rfl

/-- Carries out actions. -/
def execute (c : Connection π) : List Action → Connection π
  | [] => c
  | .transmit frame :: rest =>
    let r := c.transmit frame
    match r.2 with
    | none => execute r.1 rest
    | some _ =>
      let next := r.1.session.onTransmitError
      execute { r.1 with session := next.1 } (rest ++ next.2)
  | .arm timer ms :: rest =>
    execute { c with deadlines := c.deadlines.set timer (some (c.now + ms)) } rest
  | .cancel timer :: rest => execute { c with deadlines := c.deadlines.set timer none } rest
  | .notify event :: rest => execute { c with board := c.board.publish c.session.status event } rest
termination_by actions => (c.session.commandPending.toNat + Action.sends actions, actions.length)
decreasing_by
  · apply Prod.Lex.left
    rw [session_transmit, Action.sends_cons]
    simp [Action.isTransmit]
  · have h := Session.sends_onTransmitError_le (c.transmit frame).1.session
    apply Prod.Lex.left
    rw [session_transmit] at h
    simp only [session_transmit, Action.sends_append, Action.sends_cons, Action.isTransmit,
      Bool.toNat_true]
    omega
  all_goals simp [Action.isTransmit, Prod.lex_def]

/-- Actions touch the session, the timers, the board, the far end and what goes there and arrives
from there. What is not made of these stays. -/
theorem execute_preserves {α : Type} (f : Connection π → α)
    (hsession : ∀ c s, f { c with session := s } = f c)
    (hdeadlines : ∀ c d, f { c with deadlines := d } = f c)
    (hboard : ∀ c b, f { c with board := b } = f c)
    (hpeer : ∀ c p fs bs, f { c with peer := p, sent := fs, inbound := bs } = f c)
    (c : Connection π) (actions : List Action) : f (c.execute actions) = f c := by
  have htransmit (c : Connection π) (frame : Bytes) : f (c.transmit frame).1 = f c := by
    unfold transmit
    split
    · rfl
    · exact hpeer _ _ _ _
  fun_induction execute c actions with
  | case1 => rfl
  | case2 c frame rest r _ ih => rw [ih, htransmit]
  | case3 c frame rest r _ _ next ih => rw [ih, hsession, htransmit]
  | case4 c timer ms rest ih => rw [ih, hdeadlines]
  | case5 c timer rest ih => rw [ih, hdeadlines]
  | case6 c event rest ih => rw [ih, hboard]

@[simp] theorem now_execute (c : Connection π) (actions : List Action) :
    (c.execute actions).now = c.now :=
  execute_preserves _ (fun _ _ => rfl) (fun _ _ => rfl) (fun _ _ => rfl) (fun _ _ _ _ => rfl) _ _

@[simp] theorem frames_execute (c : Connection π) (actions : List Action) :
    (c.execute actions).frames = c.frames :=
  execute_preserves _ (fun _ _ => rfl) (fun _ _ => rfl) (fun _ _ => rfl) (fun _ _ _ _ => rfl) _ _

@[simp] theorem running_execute (c : Connection π) (actions : List Action) :
    (c.execute actions).running = c.running :=
  execute_preserves _ (fun _ _ => rfl) (fun _ _ => rfl) (fun _ _ => rfl) (fun _ _ _ _ => rfl) _ _

@[simp] theorem reading_execute (c : Connection π) (actions : List Action) :
    (c.execute actions).reading = c.reading :=
  execute_preserves _ (fun _ _ => rfl) (fun _ _ => rfl) (fun _ _ => rfl) (fun _ _ _ _ => rfl) _ _

/-- Actions that send nothing leave the session alone. -/
theorem session_execute_of_sends_eq_zero (c : Connection π) (actions : List Action)
    (h : Action.sends actions = 0) : (c.execute actions).session = c.session := by
  fun_induction execute c actions with
  | case1 => rfl
  | case2 | case3 => simp [Action.isTransmit] at h
  | case4 c timer ms rest ih => exact ih (by simpa [Action.isTransmit] using h)
  | case5 c timer rest ih => exact ih (by simpa [Action.isTransmit] using h)
  | case6 c event rest ih => exact ih (by simpa [Action.isTransmit] using h)

/-- Nothing arrives in answer to actions that send nothing. -/
theorem inbound_execute_of_sends_eq_zero (c : Connection π) (actions : List Action)
    (h : Action.sends actions = 0) : (c.execute actions).inbound = c.inbound := by
  fun_induction execute c actions with
  | case1 => rfl
  | case2 | case3 => simp [Action.isTransmit] at h
  | case4 c timer ms rest ih => exact ih (by simpa [Action.isTransmit] using h)
  | case5 c timer rest ih => exact ih (by simpa [Action.isTransmit] using h)
  | case6 c event rest ih => exact ih (by simpa [Action.isTransmit] using h)

/-- Actions do not raise the potential of the session. -/
theorem potential_execute_le (c : Connection π) (actions : List Action) :
    (c.execute actions).session.potential ≤ c.session.potential := by
  fun_induction execute c actions with
  | case1 => exact Nat.le_refl _
  | case2 c frame rest r _ ih => rwa [session_transmit] at ih
  | case3 c frame rest r _ _ next ih =>
    have hr : r.1.session = c.session := session_transmit c frame
    have h : next.1.potential ≤ c.session.potential := by
      rw [← hr]
      exact Session.potential_onTransmitError_le r.1.session
    exact Nat.le_trans ih h
  | case4 c timer ms rest ih => exact ih
  | case5 c timer rest ih => exact ih
  | case6 c event rest ih => exact ih

/-! ## The end -/

/-- A client holds a handle. -/
def isHeld (c : Connection π) : Bool := c.handles.any id

/-- Nobody holds a handle, neither a client nor the listener. -/
def isAbandoned (c : Connection π) : Bool :=
  !c.isHeld && !c.board.listener.any Listener.holdsHandle

/-- Ends the session and takes everything off the line. -/
def shutDown (c : Connection π) : Connection π :=
  let r := c.session.close
  let c := { c with session := r.1 }.execute r.2
  { c with
    line := c.line.unregister.1.unbind.1
    board := { c.board with closed := true }
    running := false }

@[simp] theorem now_shutDown (c : Connection π) : c.shutDown.now = c.now := by
  simp [shutDown]

end Connection

end DomeLink
