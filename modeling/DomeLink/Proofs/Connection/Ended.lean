import DomeLink.Proofs.Connection.Watched
import DomeLink.Proofs.Session.Closed

/-!
# A connection that has ended

A connection ends as a client closes it or as the last handle is dropped. From then on it does
nothing (`Ended`): requests are refused, waits are over at once, time passes and nothing else
happens, and what arrives is not looked at. Clients can still look and take the marks, and the far
end can still do what it likes.

* `Operated.ended`: what it is to have ended.
* `Ended.operateAll`: nothing is done any more, whatever clients and the far end do.
* `closed_for_good`: the same for sessions and connections, from their opening on.
-/

namespace DomeLink

namespace Board

theorem isEmpty_events {b : Board} (h : b.closed = true) : b.events.isEmpty = false := by
  unfold events
  rw [h]
  cases b.statusAvailable <;> cases b.commsChanged <;> decide

/-- A listener that holds no handle does not take one as it is called. -/
theorem holdsHandle_publish {b : Board} (h : b.listener.any Listener.holdsHandle = false)
    (status : Status) (event : SessionEvent) :
    (b.publish status event).listener.any Listener.holdsHandle = false := by
  cases event with
  | statusUpdated | commsChanged => exact h
  | handsetChanged =>
    simp only [publish, tell, callListener]
    cases hlistener : b.listener with
    | none => rfl
    | some l =>
      rw [hlistener] at h
      have hnone : l.successor = none := Option.not_isSome_iff_eq_none.1 (Bool.eq_false_iff.1 h)
      simp only [hnone]
      exact h

theorem holdsHandle_publishAll {b : Board} (h : b.listener.any Listener.holdsHandle = false)
    (status : Status) (events : List SessionEvent) :
    (b.publishAll status events).listener.any Listener.holdsHandle = false := by
  induction events generalizing b with
  | nil => exact h
  | cons event events ih => exact ih (holdsHandle_publish h status event)

end Board

namespace Connection

variable {π : Type} [Peer π] {config : Config} {log next : Log} {c d : Connection π}

/-! ## Operations -/

/-- What clients and the far end do with a connection. -/
inductive Operation (π : Type)
  /-- The far end changes by itself. -/
  | peer (peer : π)
  | arrive (chunk : Bytes)
  | hangUp
  | clone
  | dropHandle (index : Nat)
  | listen (listener : Listener)
  | takeStatusAvailable
  | takeCommsChanged
  | request (changes : List Change)
  | sleep (ms : Nat)
  | waitUntil (ready : Connection π → Bool) (limit : Nat)
  | close

/-- The connection after the operation. -/
def operate (c : Connection π) : Operation π → Connection π
  | .peer peer => { c with peer }
  | .arrive chunk => c.arrive chunk
  | .hangUp => c.hangUp
  | .clone => c.clone
  | .dropHandle index => c.dropHandle index
  | .listen listener => c.listen listener
  | .takeStatusAvailable => c.takeStatusAvailable.1
  | .takeCommsChanged => c.takeCommsChanged.1
  | .request changes => (c.request changes).1
  | .sleep ms => c.sleep ms
  | .waitUntil ready limit => (c.waitUntil ready limit).1
  | .close => c.close

/-- The connection after the operations. -/
def operateAll (c : Connection π) (operations : List (Operation π)) : Connection π :=
  operations.foldl operate c

/-! ## The end -/

/-- **The connection has ended.** No timer runs, there is nothing to send to, and clients are told
so. -/
structure Ended (c : Connection π) : Prop where
  running : c.running = false
  opening : c.opening = []
  deadlines : c.deadlines = {}
  bound : c.line.isBound = false
  closed : c.board.closed = true

/-- A turn leaves the line as it was, takes the transport off it, or shuts the connection down. -/
theorem Turn.ended (h : Turn c next d) (hc : c.running = false → c.line.isBound = false)
    (hd : d.running = false) : d.line.isBound = false := by
  have hfeed (c : Connection π) (i : SessionInput)
      (hc : c.running = false → c.line.isBound = false) (hd : (c.feed i).running = false) :
      (c.feed i).line.isBound = false := by
    have hline : (c.feed i).line = c.line := line_execute _ _
    rw [hline]
    exact hc (by rwa [running_feed] at hd)
  cases h with
  | @frame frame rest => exact hfeed { c with frames := rest } (.frame frame) hc hd
  | chunk => exact hc hd
  | streamEnd | shutDown => rfl
  | request h =>
    rw [execute_eq_feed h] at hd ⊢
    exact hfeed c _ hc hd
  | @timer timer due h hdue =>
    rw [fire_eq_feed h hdue] at hd ⊢
    exact hfeed { c with deadlines := c.deadlines.set timer none } (.timer timer) hc hd
  | wait => exact hc hd

/-- A connection that has been shut down has begun, and is off the line. -/
theorem Reaches.ended (h : Reaches config log c) (hc : c.running = false) :
    c.opening = [] ∧ c.line.isBound = false := by
  induction h with
  | opened h =>
    obtain ⟨-, h⟩ := check_bind_eq_ok.1 h
    cases h
    cases hc
  | outside _ _ _ _ _ _ _ ih => exact ih hc
  | @start log c _ ih =>
    have hline : c.start.line = c.line := line_execute _ _
    have hrunning : c.start.running = c.running := running_execute _ _
    rw [hrunning] at hc
    rw [hline]
    exact ⟨opening_execute _ _, (ih hc).2⟩
  | turn _ hopen ht ih =>
    exact ⟨ht.opening.trans hopen, ht.ended (fun hc => (ih hc).2) hc⟩

/-- **A session that is shut down ends the connection.** -/
theorem Operated.ended (h : Operated config c) (hc : c.running = false) : c.Ended := by
  obtain ⟨log, hreaches⟩ := h.exists_reaches
  obtain ⟨log', seen, hwatched⟩ := h.viewed
  obtain ⟨hopen, hbound⟩ := hreaches.ended hc
  have hsound := hreaches.sound
  have hfits : c.session.Fits (c.timers log) := by
    have hcoherent := hsound.coherent
    rw [hopen] at hcoherent
    exact hcoherent.fits
  exact ⟨hc, hopen, hfits.deadlines_of_closed (hsound.stopped hc), hbound,
    hwatched.closed_iff.2 hc⟩

/-! ## After the end -/

/-- **Nothing has been done** from one connection that has ended to the other: the session has not
changed, nothing has been sent, and nothing has been published. -/
structure Unchanged (c d : Connection π) : Prop where
  session : d.session = c.session
  sent : d.sent = c.sent
  published : d.board.published = c.board.published
  status : d.board.status = c.board.status
  version : d.board.version = c.board.version
  commsOk : d.board.commsOk = c.board.commsOk
  calls : d.board.calls = c.board.calls

omit [Peer π] in
theorem Unchanged.refl (c : Connection π) : Unchanged c c := ⟨rfl, rfl, rfl, rfl, rfl, rfl, rfl⟩

omit [Peer π] in
theorem Unchanged.trans {e : Connection π} (h : Unchanged c d) (h' : Unchanged d e) :
    Unchanged c e where
  session := h'.session.trans h.session
  sent := h'.sent.trans h.sent
  published := h'.published.trans h.published
  status := h'.status.trans h.status
  version := h'.version.trans h.version
  commsOk := h'.commsOk.trans h.commsOk
  calls := h'.calls.trans h.calls

theorem settle_of_stopped (hc : c.running = false) (hopen : c.opening = []) : c.settle = c :=
  settle_of_still hopen (proceed?_eq_none_iff.2 fun h => by rw [hc] at h; cases h)

theorem Ended.settle (h : c.Ended) : c.settle = c := settle_of_stopped h.running h.opening

theorem Ended.advanceTo (h : c.Ended) (time : Nat) : c.advanceTo time = { c with now := time } := by
  have hearliest : c.deadlines.earliest = none := by rw [h.deadlines]; rfl
  rw [Connection.advanceTo]
  split
  · rfl
  · rename_i due hdue
    rw [hearliest] at hdue
    cases hdue

/-- Requests are refused, and change nothing. -/
theorem Ended.request (h : c.Ended) (changes : List Change) :
    c.request changes = (c, .error .sessionClosed) := by
  rw [Connection.request, if_neg (by rw [h.running]; exact nofun)]

theorem Ended.close (h : c.Ended) : c.close = c := by
  rw [Connection.close, if_neg (by rw [h.running]; exact nofun)]

omit [Peer π] in
/-- Clients see that the connection has ended. -/
theorem Ended.has_closed (h : c.Ended) : c.board.events.has PlcEvents.closed = true :=
  (Board.has_events c.board).2.2.trans h.closed

/-- Waiting for news is over at once. -/
theorem Ended.waitEvent (h : c.Ended) (limit : Nat) :
    c.waitEvent limit = (c, some c.board.events) := by
  have hready : (!c.board.events.isEmpty) = true := by
    rw [Board.isEmpty_events h.closed]
    rfl
  simp only [Connection.waitEvent, Connection.waitUntil, if_pos hready, if_true]

/-- Time passes, if it must. -/
theorem Ended.waitUntil (h : c.Ended) (ready : Connection π → Bool) (limit : Nat) :
    ∃ now, (c.waitUntil ready limit).1 = { c with now } := by
  have hearliest : c.deadlines.earliest = none := by rw [h.deadlines]; rfl
  unfold Connection.waitUntil
  split
  · exact ⟨c.now, rfl⟩
  · rename_i hready
    split
    · exact ⟨c.now, rfl⟩
    · rw [h.settle, passUntil, if_neg hready]
      split
      · exact ⟨limit, rfl⟩
      · rename_i due hdue
        rw [hearliest] at hdue
        cases hdue

omit [Peer π] in
/-- The far end and the time may change after the end. -/
theorem Ended.outside (h : c.Ended) (now : Nat) (peer : π) (inbound : List Bytes) (hungUp : Bool)
    (handles : List Bool) : Ended { c with now, peer, inbound, hungUp, handles } :=
  ⟨h.running, h.opening, h.deadlines, h.bound, h.closed⟩

/-- **Nothing is done after the end**, by whatever operation. -/
theorem Ended.operate (h : c.Ended) (operation : Operation π) :
    (c.operate operation).Ended ∧ Unchanged c (c.operate operation) := by
  have houtside {d : Connection π} (now : Nat) (peer : π) (inbound : List Bytes) (hungUp : Bool)
      (handles : List Bool) (hd : d = { c with now, peer, inbound, hungUp, handles }) :
      d.Ended ∧ Unchanged c d := by
    subst hd
    exact ⟨h.outside now peer inbound hungUp handles, rfl, rfl, rfl, rfl, rfl, rfl, rfl⟩
  cases operation with
  | peer peer => exact houtside c.now peer c.inbound c.hungUp c.handles rfl
  | arrive chunk =>
    exact houtside c.now c.peer (c.inbound ++ [chunk]) c.hungUp c.handles
      (settle_of_stopped h.running h.opening)
  | hangUp =>
    exact houtside c.now c.peer c.inbound true c.handles (settle_of_stopped h.running h.opening)
  | clone => exact houtside c.now c.peer c.inbound c.hungUp (c.handles ++ [c.isHeld]) rfl
  | dropHandle index =>
    refine houtside c.now c.peer c.inbound c.hungUp (c.handles.set index false) ?_
    show c.dropHandle index = _
    unfold Connection.dropHandle
    dsimp only
    split
    · exact settle_of_stopped h.running h.opening
    · rfl
  | listen | takeStatusAvailable | takeCommsChanged =>
    exact ⟨⟨h.running, h.opening, h.deadlines, h.bound, h.closed⟩, rfl, rfl, rfl, rfl, rfl, rfl, rfl⟩
  | request changes =>
    refine houtside c.now c.peer c.inbound c.hungUp c.handles ?_
    exact congrArg Prod.fst (h.request changes)
  | sleep ms =>
    refine houtside (c.now + ms) c.peer c.inbound c.hungUp c.handles ?_
    show c.settle.advanceTo (c.now + ms) = _
    rw [h.settle, h.advanceTo]
  | waitUntil ready limit =>
    obtain ⟨now, hd⟩ := h.waitUntil ready limit
    exact houtside now c.peer c.inbound c.hungUp c.handles hd
  | close => exact houtside c.now c.peer c.inbound c.hungUp c.handles h.close

theorem Ended.operateAll (h : c.Ended) (operations : List (Operation π)) :
    (c.operateAll operations).Ended ∧ Unchanged c (c.operateAll operations) := by
  induction operations generalizing c with
  | nil => exact ⟨h, .refl c⟩
  | cons operation operations ih =>
    obtain ⟨hended, hstep⟩ := h.operate operation
    obtain ⟨hended', hrest⟩ := ih hended
    exact ⟨hended', hstep.trans hrest⟩

/-- **After the end**: nothing has been done since, requests are refused and change nothing, and a
wait for news is over at once, with the news that the connection has ended. -/
structure AfterEnd (c d : Connection π) : Prop where
  ended : d.Ended
  unchanged : Unchanged c d
  request : ∀ changes, d.request changes = (d, .error .sessionClosed)
  waitEvent : ∀ limit, d.waitEvent limit = (d, some d.board.events)
  told : d.board.events.has PlcEvents.closed = true

/-- **The end is final**, whatever clients and the far end do. -/
theorem Ended.afterEnd (h : c.Ended) (operations : List (Operation π)) :
    AfterEnd c (c.operateAll operations) := by
  obtain ⟨hended, hunchanged⟩ := h.operateAll operations
  exact ⟨hended, hunchanged, hended.request, hended.waitEvent, hended.has_closed⟩

/-! ## What ends a connection -/

theorem running_close (c : Connection π) : c.close.running = false := by
  unfold Connection.close
  split
  · rfl
  · exact Bool.eq_false_iff.2 ‹_›

theorem Turn.handles (h : Turn c next d) : d.handles = c.handles := by
  cases h with
  | frame | request => exact handles_execute _ _
  | timer h hdue =>
    rw [fire_eq_feed h hdue]
    exact handles_execute _ _
  | shutDown => exact handles_execute _ _
  | chunk | streamEnd | wait => rfl

omit [Peer π] in
/-- Nobody takes a handle by being told of something. -/
theorem GoesOn.isAbandoned {inputs : List SessionInput} (h : GoesOn c inputs d)
    (hhandles : d.handles = c.handles) (hc : c.isAbandoned = true) : d.isAbandoned = true := by
  obtain ⟨closed, hboard⟩ := h.board
  simp only [Connection.isAbandoned, isHeld, hhandles, Bool.and_eq_true, Bool.not_eq_true',
    hboard] at hc ⊢
  exact ⟨hc.1, Board.holdsHandle_publishAll hc.2 _ _⟩

theorem isAbandoned_settle (hquiet : Action.events c.opening = []) (hc : c.isAbandoned = true) :
    c.settle.isAbandoned = true := by
  have hstart := (goesOn_start hquiet).isAbandoned (handles_execute _ _) hc
  refine Moves.keep (P := fun c => c.isAbandoned = true) (fun c d hc hmove => ?_) (moves_settle c)
    hstart
  obtain ⟨next, ht⟩ := hmove.exists_turn
  exact ht.goesOn.isAbandoned ht.handles hc

/-- Dropping the last handle ends the connection. -/
theorem running_dropHandle (hquiet : Action.events c.opening = []) {index : Nat}
    (h : { c with handles := c.handles.set index false }.isAbandoned = true) :
    (c.dropHandle index).running = false := by
  have hdrop : c.dropHandle index = { c with handles := c.handles.set index false }.settle :=
    if_pos h
  rw [hdrop]
  refine Bool.eq_false_iff.2 fun hrun => ?_
  have hheld := (proceed?_eq_none_iff.1 (proceed?_settle _) hrun).2
  have habandoned := isAbandoned_settle (c := { c with handles := c.handles.set index false })
    hquiet h
  rw [habandoned] at hheld
  cases hheld

/-- **What is closed stays closed.** A session that has been closed does nothing in the course of
any inputs. Nor does a connection, after it has been closed or the last handle has been dropped. -/
theorem closed_for_good (timing : Timing) (before after : List SessionInput)
    (h : Operated config c) :
    (∀ actions ∈ (Session.reached timing before).close.1.runActions after, actions = []) ∧
      (Session.reached timing before).Stays
        ((Session.reached timing before).close.1.run after) ∧
      (∀ operations, AfterEnd c.close (c.close.operateAll operations)) ∧
      (∀ index operations, { c with handles := c.handles.set index false }.isAbandoned = true →
        AfterEnd (c.dropHandle index) ((c.dropHandle index).operateAll operations)) ∧
      ∀ operations, c.running = false → AfterEnd c (c.operateAll operations) := by
  obtain ⟨hnothing, hstays⟩ := Session.stays_run (Session.closed_close timing before) after
  refine ⟨hnothing, (Session.stays_close timing before).trans hstays, ?_, ?_, ?_⟩
  · exact fun operations => (h.close.ended (running_close c)).afterEnd operations
  · intro index operations habandoned
    obtain ⟨log, seen, hwatched⟩ := h.viewed
    have hstopped := running_dropHandle hwatched.events_opening habandoned
    exact ((h.dropHandle index).ended hstopped).afterEnd operations
  · exact fun operations hstopped => (h.ended hstopped).afterEnd operations

/-- A connection whose only handle is dropped at once. -/
theorem closed_for_good_of_dropped :
    ∃ c : Connection Script, Operated {} c ∧ c.running = true ∧
      { c with handles := c.handles.set 0 false }.isAbandoned = true ∧
      (∀ operations, AfterEnd (c.dropHandle 0) ((c.dropHandle 0).operateAll operations)) ∧
      ∀ operations, AfterEnd c.close (c.close.operateAll operations) := by
  have hopened : openTo {} ({} : Script) = .ok _ := rfl
  obtain ⟨-, -, hclosed, hdropped, -⟩ :=
    closed_for_good {} [.transmitError] [.timer .response] (Operated.opened hopened)
  exact ⟨_, .opened hopened, rfl, rfl, fun operations => hdropped 0 operations rfl, hclosed⟩

end Connection

end DomeLink
