import DomeLink.Connection.Drain

/-!
# Time

Model of `fire_due_timers` and of the wait for the next deadline in `run` (`driver` in `plc-driver`;
specification, section 5).

Time jumps from one deadline to the next. At each of them the timers that are due are served, in the
order of `Timer.all`, and everything that follows from it happens before time goes on.

`advanceTo` lets time pass up to an instant, that instant included. `passUntil` lets it pass until a
condition holds, and gives up at its limit: what would happen at that very instant comes too late.
`sleep` and `waitUntil` do so after everything has happened that can happen now.

A client that has slept or waited acts only after the timers that are due at that instant have been
served and all that follows from them has happened. This is the settled order on which the results
about clients rest. The results about `Reaches` hold in any order: there a request may also come in
before a timer that is due.

Out of scope: the time that computing and sending take.
-/

namespace DomeLink.Connection

variable {π : Type} [Peer π]

/-- Serves a timer, if it is due. -/
def fire (c : Connection π) (timer : Timer) : Connection π :=
  match c.deadlines.get timer with
  | none => c
  | some due =>
    if due ≤ c.now then
      let r := c.session.onTimer timer
      { c with deadlines := c.deadlines.set timer none, session := r.1 }.execute r.2
    else c

/-- Serves all timers that are due. -/
def fireDue (c : Connection π) : Connection π := Timer.all.foldl fire c

@[simp] theorem now_fire (c : Connection π) (timer : Timer) : (c.fire timer).now = c.now := by
  unfold fire
  split
  · rfl
  · split
    · simp
    · rfl

@[simp] theorem now_fireDue (c : Connection π) : c.fireDue.now = c.now := by
  simp [fireDue, Timer.all]

/-- Lets the time come and everything happen that happens then. -/
def jumpTo (c : Connection π) (time : Nat) : Connection π := { c with now := time }.fireDue.drain

@[simp] theorem now_jumpTo (c : Connection π) (time : Nat) : (c.jumpTo time).now = time := by
  simp [jumpTo]

/-- Lets time pass up to the given instant. -/
def advanceTo (time : Nat) (c : Connection π) : Connection π :=
  match c.deadlines.earliest with
  | none => { c with now := time }
  | some due =>
    if _h : c.now < due ∧ due ≤ time then advanceTo time (c.jumpTo due) else { c with now := time }
termination_by time - c.now
decreasing_by
  rw [now_jumpTo]
  omega

/-- Lets time pass. -/
def sleep (c : Connection π) (ms : Nat) : Connection π := c.settle.advanceTo (c.now + ms)

/-- Lets time pass until the condition holds, but not up to the limit. -/
def passUntil (ready : Connection π → Bool) (limit : Nat) (c : Connection π) :
    Connection π × Bool :=
  if ready c then (c, true)
  else
    match c.deadlines.earliest with
    | none => ({ c with now := limit }, false)
    | some due =>
      if _h : c.now < due ∧ due < limit then passUntil ready limit (c.jumpTo due)
      else (c.advanceTo limit, false)
termination_by limit - c.now
decreasing_by
  rw [now_jumpTo]
  omega

/-- Waits until the condition holds, but not up to the limit. A wait that is over as it begins lets
nothing happen. -/
def waitUntil (ready : Connection π → Bool) (limit : Nat) (c : Connection π) :
    Connection π × Bool :=
  if ready c then (c, true)
  else if limit ≤ c.now then (c, false)
  else c.settle.passUntil ready limit

end DomeLink.Connection
