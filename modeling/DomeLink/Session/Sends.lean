import DomeLink.Session.Basic

/-!
# How many frames an exchange can send

No part of the driver counts these frames. The bound is what `Connection.execute` and
`Connection.drain` rest their termination on.

While a session waits for a reply, there is a bound on what it can still send before it is idle:
`potential`. It is one at most, and an arriving frame or a failed transmission uses it up: what they
send is taken off it. So a controller that answers at once cannot keep a session busy for ever.

* `sends_onTransmitError_le`: a failed transmission sends the command that waited, or nothing.
* `potential_onFrame_le`: a frame takes what it sends off the potential.
* `potential_onTransmitError_le`: a failed transmission does not raise it.
-/

namespace DomeLink.Session

theorem sends_commsEdge (s : Session) (ok : Bool) : Action.sends (s.commsEdge ok) = 0 := by
  unfold commsEdge
  split <;> rfl

theorem sends_handsetEdge (changed : List StatusField) (old new : UInt8) :
    Action.sends (handsetEdge changed old new) = 0 := by
  unfold handsetEdge
  split <;> rfl

/-- The frames that a session can still send before it is idle, if no timer runs out. -/
def potential (s : Session) : Nat :=
  match s.state with
  | .idle | .closed => 0
  | .awaitCommandAck => s.commandPending.toNat
  | .awaitInitialStatus | .awaitStatus => 1

/-! ## The end of an exchange -/

theorem commandPending_resolve (s : Session) : s.resolve.1.commandPending = false := by
  unfold resolve
  split
  · rfl
  · rename_i h
    simpa using h

theorem potential_resolve (s : Session) : s.resolve.1.potential = 0 := by
  unfold resolve
  cases s.commandPending <;> rfl

theorem sends_resolve (s : Session) : Action.sends s.resolve.2 = s.commandPending.toNat := by
  unfold resolve
  cases s.commandPending <;> rfl

theorem sends_failExchange (s : Session) :
    Action.sends s.failExchange.2 = s.commandPending.toNat := by
  have h := sends_resolve { s with inFlight := ∅, commsOk := false }
  simpa [failExchange, sends_commsEdge, Action.isTransmit] using h

theorem potential_failExchange (s : Session) : s.failExchange.1.potential = 0 :=
  potential_resolve _

/-! ## Failed transmissions -/

/-- What a failed transmission sends was waiting to be sent. -/
theorem sends_onTransmitError_le (s : Session) :
    s.onTransmitError.1.commandPending.toNat + Action.sends s.onTransmitError.2 ≤
      s.commandPending.toNat := by
  unfold onTransmitError
  split
  · rw [sends_failExchange]
    simp [failExchange, commandPending_resolve]
  · rw [sends_failExchange]
    simp [failExchange, commandPending_resolve]
  all_goals simp

theorem potential_onTransmitError_le (s : Session) :
    s.onTransmitError.1.potential ≤ s.potential := by
  unfold onTransmitError
  split
  · simp [potential_failExchange]
  · simp [potential_failExchange]
  all_goals exact Nat.le_refl _

/-! ## Frames -/

theorem potential_initialStatus_le (s : Session) (frame : Bytes)
    (h : s.state = .awaitInitialStatus) :
    (s.initialStatus frame).1.potential + Action.sends (s.initialStatus frame).2 ≤
      s.potential := by
  unfold initialStatus
  split
  · simp
  · simp [sendCommand, potential, h, arm, Action.isTransmit]

theorem potential_statusReply_le (s : Session) (frame : Bytes) (h : s.state = .awaitStatus) :
    (s.statusReply frame).1.potential + Action.sends (s.statusReply frame).2 ≤ s.potential := by
  have hs : s.potential = 1 := by simp [potential, h]
  unfold statusReply
  split
  · rw [potential_failExchange, sends_failExchange, hs]
    have := Bool.toNat_le s.commandPending
    omega
  · simp only [potential_resolve, Action.sends_cons, Action.sends_append, sends_handsetEdge,
      sends_resolve, arm, Action.isTransmit, hs]
    have := Bool.toNat_le (s.commandPending || s.command.isConfirmedBy ‹_›)
    simp
    omega

theorem potential_commandAck_le (s : Session) (frame : Bytes) (h : s.state = .awaitCommandAck) :
    (s.commandAck frame).1.potential + Action.sends (s.commandAck frame).2 ≤ s.potential := by
  have hs : s.potential = s.commandPending.toNat := by simp [potential, h]
  unfold commandAck
  split
  · rw [potential_failExchange, sends_failExchange, hs]
    omega
  · simp [potential_resolve, sends_commsEdge, sends_resolve, arm, Action.isTransmit, hs]

/-- A frame takes what it sends off the potential. -/
theorem potential_onFrame_le (s : Session) (frame : Bytes) :
    (s.onFrame frame).1.potential + Action.sends (s.onFrame frame).2 ≤ s.potential := by
  unfold onFrame
  split
  · exact potential_initialStatus_le s frame ‹_›
  · exact potential_statusReply_le s frame ‹_›
  · exact potential_commandAck_le s frame ‹_›
  all_goals simp

end DomeLink.Session
