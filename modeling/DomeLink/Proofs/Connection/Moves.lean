import DomeLink.Proofs.Connection.Operations
import Mathlib.Logic.Relation

/-!
# Operations, one move after the other

A `Move` is one thing that a connection does while its clients operate it: the next thing that can
happen at an instant happens, a timer that is due is served, a request is taken, or time passes.
Requests are taken, and time passes, only where nothing is left to happen. So moves say more than
turns do: between an operation and the next nothing is on its way.

Every operation is a chain of moves (`Moves`): `moves_settle`, `moves_request`, `moves_sleep`,
`moves_passUntil`. What all moves keep is kept by all operations.

A `Tick` is a move that a connection makes by itself, with no request being taken. Timers that are
due at one instant are served in their order, because a timer that is served is due no more at that
instant: `ticks_settle`, `ticks_sleep`, `ticks_passUntil`.
-/

namespace DomeLink.Connection

variable {π : Type} [Peer π] {config : Config} {c d : Connection π}

/-! ## Where nothing is left to happen -/

theorem takeIn?_eq_none_iff : c.takeIn? = none ↔
    c.frames = [] ∧ (c.reading = true → c.inbound = [] ∧ c.hungUp = false) := by
  unfold takeIn?
  cases hframes : c.frames with
  | cons frame rest => simp
  | nil =>
    cases hinbound : c.inbound with
    | cons chunk rest => cases c.reading <;> simp
    | nil => cases c.reading <;> simp

/-- Nothing is left to happen: the session has ended, or nothing is on its way and somebody holds
a handle. -/
theorem proceed?_eq_none_iff : c.proceed? = none ↔
    (c.running = true → c.takeIn? = none ∧ c.isAbandoned = false) := by
  unfold proceed?
  cases c.running with
  | false => simp
  | true => cases c.takeIn? <;> cases c.isAbandoned <;> simp

theorem proceed?_now (time : Nat) : { c with now := time }.proceed? = none ↔ c.proceed? = none := by
  rw [proceed?_eq_none_iff, proceed?_eq_none_iff, takeIn?_eq_none_iff, takeIn?_eq_none_iff]
  rfl

theorem drain_of_still (h : c.proceed? = none) : c.drain = c := by
  rw [drain]
  split
  · rfl
  · rename_i d hd
    rw [h] at hd
    cases hd

theorem start_of_opened (h : c.opening = []) : c.start = c := by
  obtain ⟨⟩ := c
  subst h
  rw [start, execute]

theorem settle_of_still (hopen : c.opening = []) (h : c.proceed? = none) : c.settle = c := by
  rw [settle, start_of_opened hopen, drain_of_still h]

theorem opening_proceed? (h : c.proceed? = some d) : d.opening = c.opening := by
  obtain ⟨next, ht⟩ := exists_turn_of_proceed? h
  exact ht.opening

theorem opening_drain (c : Connection π) : c.drain.opening = c.opening := by
  fun_induction drain c with
  | case1 => rfl
  | case2 c d hd ih => rw [ih, opening_proceed? hd]

theorem opening_settle (c : Connection π) : c.settle.opening = [] := by
  rw [settle, opening_drain]
  exact opening_execute _ _

/-! ## Moves -/

@[simp] theorem handles_execute (c : Connection π) (actions : List Action) :
    (c.execute actions).handles = c.handles :=
  execute_preserves _ (fun _ _ => rfl) (fun _ _ => rfl) (fun _ _ => rfl) (fun _ _ _ _ => rfl) _ _

/-- **One move** of a connection. -/
inductive Move (c : Connection π) : Connection π → Prop
  /-- The next thing that can happen at this instant. -/
  | proceed {d : Connection π} (h : c.proceed? = some d) : Move c d
  /-- A timer that is due is served. -/
  | serve {timer : Timer} {due : Nat} (h : c.deadlines.get timer = some due) (hdue : due ≤ c.now) :
      Move c (c.fire timer)
  /-- A request is taken. -/
  | request {changes : List Change} {r : Session.Step} (hstill : c.proceed? = none)
      (h : c.session.update changes = .ok r) : Move c ({ c with session := r.1 }.execute r.2)
  /-- Time passes, but not beyond a deadline. -/
  | wait {time : Nat} (hstill : c.proceed? = none) (hle : c.now ≤ time)
      (hdue : ∀ timer due, c.deadlines.get timer = some due → time ≤ due) :
      Move c { c with now := time }

theorem Move.exists_turn (h : Move c d) : ∃ next, Turn c next d := by
  cases h with
  | proceed h => exact exists_turn_of_proceed? h
  | serve h hdue => exact ⟨_, .timer h hdue⟩
  | request _ h => exact ⟨_, .request h⟩
  | wait _ hle hdue => exact ⟨_, .wait hle hdue⟩

theorem Move.opening (h : Move c d) : d.opening = c.opening := by
  obtain ⟨next, ht⟩ := h.exists_turn
  exact ht.opening

/-- A connection that runs has run before. -/
theorem Move.running (h : Move c d) (hd : d.running = true) : c.running = true := by
  obtain ⟨next, ht⟩ := h.exists_turn
  cases ht with
  | frame =>
    rw [handleFrame_eq_feed, running_feed] at hd
    exact hd
  | request hr =>
    rw [execute_eq_feed hr, running_feed] at hd
    exact hd
  | timer hget hdue =>
    rw [fire_eq_feed hget hdue, running_feed] at hd
    exact hd
  | shutDown => cases hd
  | chunk | streamEnd | wait => exact hd

/-- While a client holds a handle no move ends the session. -/
theorem Move.held (h : Move c d) (hheld : c.isHeld = true) :
    d.handles = c.handles ∧ d.running = c.running := by
  have hfeed (c : Connection π) (i : SessionInput) :
      (c.feed i).handles = c.handles ∧ (c.feed i).running = c.running :=
    ⟨handles_execute _ _, running_feed c i⟩
  cases h with
  | proceed hd =>
    cases proceeds_of_proceed? hd with
    | frame =>
      rw [handleFrame_eq_feed]
      exact hfeed _ _
    | chunk | streamEnd => exact ⟨rfl, rfl⟩
    | shutDown habandoned =>
      rw [isAbandoned, hheld] at habandoned
      cases habandoned
  | serve hget hdue =>
    rw [fire_eq_feed hget hdue]
    exact hfeed _ _
  | request _ hr =>
    rw [execute_eq_feed hr]
    exact hfeed _ _
  | wait => exact ⟨rfl, rfl⟩

/-- One move after the other. -/
abbrev Moves : Connection π → Connection π → Prop := Relation.ReflTransGen Move

/-- What every move keeps is kept by moves. -/
theorem Moves.keep {P : Connection π → Prop} (hP : ∀ c d, P c → Move c d → P d) (h : Moves c d)
    (hc : P c) : P d := by
  induction h with
  | refl => exact hc
  | tail _ hmove ih => exact hP _ _ ih hmove

theorem Moves.held (h : Moves c d) (hheld : c.isHeld = true) :
    d.handles = c.handles ∧ d.running = c.running := by
  induction h with
  | refl => exact ⟨rfl, rfl⟩
  | tail _ hmove ih =>
    obtain ⟨hhandles, hrunning⟩ := hmove.held (by rw [isHeld, ih.1]; exact hheld)
    exact ⟨hhandles.trans ih.1, hrunning.trans ih.2⟩

/-! ## Ticks -/

/-- **One tick** of a connection: a move that it makes by itself. Of the timers that are due the
first in their order is served. -/
inductive Tick (c : Connection π) : Connection π → Prop
  | proceed {d : Connection π} (h : c.proceed? = some d) : Tick c d
  | serve {timer : Timer} {due : Nat} (h : c.deadlines.get timer = some due) (hdue : due ≤ c.now)
      (hfirst : ∀ other time, other.index < timer.index → c.deadlines.get other = some time →
        c.now < time) : Tick c (c.fire timer)
  | wait {time : Nat} (hstill : c.proceed? = none) (hle : c.now ≤ time)
      (hdue : ∀ timer due, c.deadlines.get timer = some due → time ≤ due) :
      Tick c { c with now := time }

theorem Tick.move (h : Tick c d) : Move c d := by
  cases h with
  | proceed h => exact .proceed h
  | serve h hdue => exact .serve h hdue
  | wait hstill hle hdue => exact .wait hstill hle hdue

/-- One tick after the other. -/
abbrev Ticks : Connection π → Connection π → Prop := Relation.ReflTransGen Tick

theorem Ticks.moves (h : Ticks c d) : Moves c d :=
  Relation.ReflTransGen.mono (fun _ _ => Tick.move) c d h

theorem ticks_drain (c : Connection π) : Ticks c c.drain := by
  fun_induction drain c with
  | case1 => exact .refl
  | case2 c d hd ih => exact .head (.proceed hd) ih

theorem ticks_settle (c : Connection π) : Ticks c.start c.settle := ticks_drain c.start

/-- Timers that may be due are served in their order. -/
theorem ticks_fireAll {timers : List Timer} (hsorted : timers.Pairwise (·.index < ·.index))
    (h : Live config (fun timer => if timer ∈ timers then c.now else c.now + 1) c)
    (hopen : c.opening = []) : Ticks c (timers.foldl fire c) := by
  induction timers generalizing c with
  | nil => exact .refl
  | cons timer timers ih =>
    obtain ⟨hlater, hsorted⟩ := List.pairwise_cons.1 hsorted
    have hserve : Ticks c (c.fire timer) := by
      by_cases hdue : ∃ due, c.deadlines.get timer = some due ∧ due ≤ c.now
      · obtain ⟨due, hget, hle⟩ := hdue
        refine .single (.serve hget hle fun other time hother htime => ?_)
        -- a timer that comes before has been served, or is not due yet
        have hserved : other ∉ timer :: timers := by
          rintro (_ | ⟨_, hmem⟩)
          · exact Nat.lt_irrefl _ hother
          · exact Nat.lt_asymm hother (hlater other hmem)
        have hlow := h.low_le hopen htime
        rwa [if_neg hserved] at hlow
      · rw [fire_of_not_due hdue]
    obtain ⟨hfired, hopen'⟩ := h.fireHead hopen
    exact hserve.trans (ih hsorted hfired hopen')

theorem ticks_jumpTo (h : Steady config c) (hopen : c.opening = []) (hstill : c.proceed? = none)
    {time : Nat} (hle : c.now ≤ time)
    (hdue : ∀ timer due, c.deadlines.get timer = some due → time ≤ due) :
    Ticks c (c.jumpTo time) := by
  have hserve : Ticks { c with now := time } { c with now := time }.fireDue :=
    ticks_fireAll (by decide) (h.due hopen hle hdue) hopen
  exact .head (.wait hstill hle hdue) (hserve.trans (ticks_drain _))

/-- Time passes in ticks, and nothing is left to happen when it has passed. -/
theorem ticks_advanceTo (h : Steady config c) (hopen : c.opening = []) (hstill : c.proceed? = none)
    {time : Nat} (hle : c.now ≤ time) :
    Ticks c (c.advanceTo time) ∧ (c.advanceTo time).proceed? = none := by
  fun_induction advanceTo time c with
  | case1 c hnone =>
    have hdue := Deadlines.le_of_earliest_eq_none hnone time
    exact ⟨.single (.wait hstill hle hdue), (proceed?_now time).2 hstill⟩
  | case2 c first hfirst hbefore ih =>
    have hdue := fun timer due (hget : c.deadlines.get timer = some due) =>
      Deadlines.earliest_le hfirst hget
    have hjump := ticks_jumpTo h hopen hstill (Nat.le_of_lt hbefore.1) hdue
    obtain ⟨hsteady, hopen'⟩ := h.jumpTo hopen (Nat.le_of_lt hbefore.1) hdue
    obtain ⟨hticks, hstill'⟩ := ih hsteady hopen' (proceed?_drain _)
      (by rw [now_jumpTo]; exact hbefore.2)
    exact ⟨hjump.trans hticks, hstill'⟩
  | case3 c first hfirst hbefore =>
    refine ⟨.single (.wait hstill hle fun timer due hget => ?_), (proceed?_now time).2 hstill⟩
    obtain ⟨served, hserved⟩ := Deadlines.exists_get_of_earliest hfirst
    have hlt : c.now < first := h.now_lt hopen hserved
    have hfirst_le : first ≤ due := Deadlines.earliest_le hfirst hget
    omega

theorem ticks_sleep (h : Steady config c) (ms : Nat) :
    Ticks c.settle (c.sleep ms) ∧ (c.sleep ms).proceed? = none := by
  obtain ⟨hsettle, hopen⟩ := h.settle
  refine ticks_advanceTo hsettle hopen (proceed?_settle c) ?_
  rw [now_settle]
  exact Nat.le_add_right ..

theorem ticks_passUntil (h : Steady config c) (hopen : c.opening = []) (hstill : c.proceed? = none)
    (ready : Connection π → Bool) {limit : Nat} (hle : c.now ≤ limit) :
    Ticks c (c.passUntil ready limit).1 ∧ (c.passUntil ready limit).1.proceed? = none := by
  fun_induction passUntil ready limit c with
  | case1 => exact ⟨.refl, hstill⟩
  | case2 c _ hnone =>
    have hdue := Deadlines.le_of_earliest_eq_none hnone limit
    exact ⟨.single (.wait hstill hle hdue), (proceed?_now limit).2 hstill⟩
  | case3 c _ first hfirst hbefore ih =>
    have hdue := fun timer due (hget : c.deadlines.get timer = some due) =>
      Deadlines.earliest_le hfirst hget
    have hjump := ticks_jumpTo h hopen hstill (Nat.le_of_lt hbefore.1) hdue
    obtain ⟨hsteady, hopen'⟩ := h.jumpTo hopen (Nat.le_of_lt hbefore.1) hdue
    obtain ⟨hticks, hstill'⟩ := ih hsteady hopen' (proceed?_drain _)
      (by rw [now_jumpTo]; exact Nat.le_of_lt hbefore.2)
    exact ⟨hjump.trans hticks, hstill'⟩
  | case4 => exact ticks_advanceTo h hopen hstill hle

/-! ## Operations -/

theorem moves_settle (c : Connection π) : Moves c.start c.settle := (ticks_settle c).moves

@[simp] theorem now_advanceTo (c : Connection π) (time : Nat) : (c.advanceTo time).now = time := by
  fun_induction advanceTo time c with
  | case1 => rfl
  | case2 _ _ _ _ ih => exact ih
  | case3 => rfl

@[simp] theorem now_sleep (c : Connection π) (ms : Nat) : (c.sleep ms).now = c.now + ms :=
  now_advanceTo _ _

theorem moves_sleep (h : Steady config c) (ms : Nat) :
    Moves c.settle (c.sleep ms) ∧ (c.sleep ms).proceed? = none := by
  obtain ⟨hticks, hstill⟩ := ticks_sleep h ms
  exact ⟨hticks.moves, hstill⟩

theorem moves_passUntil (h : Steady config c) (hopen : c.opening = []) (hstill : c.proceed? = none)
    (ready : Connection π → Bool) {limit : Nat} (hle : c.now ≤ limit) :
    Moves c (c.passUntil ready limit).1 ∧ (c.passUntil ready limit).1.proceed? = none := by
  obtain ⟨hticks, hstill'⟩ := ticks_passUntil h hopen hstill ready hle
  exact ⟨hticks.moves, hstill'⟩

theorem moves_request (c : Connection π) (changes : List Change) (hrun : c.running = true) :
    Moves c.settle (c.request changes).1 ∧ (c.request changes).1.proceed? = none := by
  unfold request
  rw [if_pos hrun]
  dsimp only
  split
  case h_2 => exact ⟨.refl, proceed?_settle c⟩
  case h_1 r hr =>
    exact ⟨(Relation.ReflTransGen.single (.request (proceed?_settle c) hr)).trans (ticks_drain _).moves,
      proceed?_drain _⟩

end DomeLink.Connection
