import DomeLink.Proofs.Config
import DomeLink.Proofs.Connection.Run

/-!
# Operations are runs

What a client can do with a connection, and all that follows from it, is a run in turns: `Live` says
of a connection that a run leads to it, and that no timer is due before a given time. Between the
operations of its clients all timers of a connection are due later than now (`Steady`), because no
period is zero. So time never passes a deadline, and what holds of every run holds of a connection
whatever its clients do.

* `Live.drain`, `Steady.advanceTo`: what happens without time passing, and as time passes.
* `Operated.steady`: every operation is a run, and ends before the next deadline.
* `Operated.exists_reaches`: so what holds of every run holds whatever clients do.
-/

namespace DomeLink

theorem Deadlines.earliest_le {d : Deadlines} {first due : Nat} {timer : Timer}
    (h : d.earliest = some first) (hdue : d.get timer = some due) : first ≤ due := by
  have hmem : due ∈ Timer.all.filterMap d.get :=
    List.mem_filterMap.2 ⟨timer, by cases timer <;> decide, hdue⟩
  exact (List.min?_eq_some_iff.1 h).2 due hmem

theorem Deadlines.exists_get_of_earliest {d : Deadlines} {first : Nat}
    (h : d.earliest = some first) : ∃ timer, d.get timer = some first := by
  obtain ⟨timer, -, hget⟩ := List.mem_filterMap.1 (List.min?_eq_some_iff.1 h).1
  exact ⟨timer, hget⟩

theorem Deadlines.earliest_eq_none {d : Deadlines} (h : d.earliest = none) (timer : Timer) :
    d.get timer = none := by
  have hnil := List.min?_eq_none_iff.1 h
  rw [List.filterMap_eq_nil_iff] at hnil
  exact hnil timer (by cases timer <;> decide)

/-- Where no timer runs, any time may come. -/
theorem Deadlines.le_of_earliest_eq_none {d : Deadlines} (h : d.earliest = none) (time : Nat)
    (timer : Timer) (due : Nat) (hget : d.get timer = some due) : time ≤ due := by
  rw [earliest_eq_none h] at hget
  cases hget

namespace Connection

variable {π : Type} [Peer π] {config : Config} {log next : Log} {c d : Connection π}
  {low low' : Timer → Nat}

theorem Reaches.period_pos (h : Reaches config log c) (timer : Timer) :
    0 < config.timing.period timer := by
  induction h with
  | opened h => exact Config.period_pos (check_bind_eq_ok.1 h).1 timer
  | outside | start | turn => assumption

/-! ## Live connections -/

/-- A run leads to the connection, and each of its timers is due no earlier than the time given for
it. -/
def Live (config : Config) (low : Timer → Nat) (c : Connection π) : Prop :=
  ∃ log, Reaches config log c ∧ Session.Coherent config.timing low c.session
    ((c.timers log).after c.now c.opening)

/-- All timers of the connection are due later than now. -/
def Steady (config : Config) (c : Connection π) : Prop := Live config (fun _ => c.now + 1) c

theorem Live.period_pos (h : Live config low c) (timer : Timer) :
    0 < config.timing.period timer := by
  obtain ⟨log, hreaches, -⟩ := h
  exact hreaches.period_pos timer

/-- No timer that is started now is due before the next instant. -/
theorem Live.next_le (h : Live config low c) (now : Nat) (timer : Timer) :
    now + 1 ≤ now + config.timing.period timer := Nat.add_le_add_left (h.period_pos timer) now

theorem steady_opened {peer : π} (h : openTo config peer = .ok c) : Steady config c := by
  have hreaches := Reaches.opened h
  obtain ⟨hcheck, h⟩ := check_bind_eq_ok.1 h
  cases h
  refine ⟨{}, hreaches, Session.coherent_opened fun timer => ?_⟩
  exact Nat.add_le_add_left (Config.period_pos hcheck timer) _

omit [Peer π] in
/-- Every configuration that is accepted opens a connection. -/
theorem exists_opened (h : config.check = .ok ()) (peer : π) : ∃ c, openTo config peer = .ok c := by
  simp only [openTo, h, ok_bind]
  exact ⟨_, rfl⟩

theorem Steady.outside (h : Steady config c) (peer : π) (frames inbound : List Bytes)
    (hungUp : Bool) (handles : List Bool) (board : Board) :
    Steady config { c with peer, frames, inbound, hungUp, handles, board } := by
  obtain ⟨log, hreaches, hc⟩ := h
  exact ⟨log, hreaches.outside peer frames inbound hungUp handles board, hc⟩

theorem Live.turn (h : Live config low c) (hopen : c.opening = [])
    (hlow : ∀ timer, low timer ≤ c.now + config.timing.period timer) (ht : Turn c next d) :
    Live config low d := by
  obtain ⟨log, hreaches, hc⟩ := h
  rw [hopen] at hc
  refine ⟨log ++ next, hreaches.turn hopen ht, ?_⟩
  rw [ht.opening, hopen]
  exact ht.coherent hlow hc

/-! ## What happens without time passing -/

/-- What can happen without time passing. -/
inductive Proceeds (c : Connection π) : Connection π → Prop
  | frame {frame : Bytes} {rest : List Bytes} (h : c.frames = frame :: rest) :
      Proceeds c ({ c with frames := rest }.handleFrame frame)
  | chunk {chunk : Bytes} {rest : List Bytes} (h : c.inbound = chunk :: rest) :
      Proceeds c ({ c with inbound := rest }.readChunk chunk)
  | streamEnd (h : c.hungUp = true) : Proceeds c c.noticeEnd
  | shutDown (h : c.isAbandoned = true) : Proceeds c c.shutDown

theorem proceeds_of_proceed? (h : c.proceed? = some d) : Proceeds c d := by
  unfold proceed? at h
  split at h
  · split at h
    · rename_i e he
      cases h
      unfold takeIn? at he
      split at he
      · cases he
        exact .frame ‹_›
      · split at he
        · cases he
          exact .chunk ‹_›
        · cases he
      · split at he
        · rename_i hend
          cases he
          exact .streamEnd (Bool.and_eq_true_iff.1 hend).2
        · cases he
    · split at h
      · cases h
        exact .shutDown ‹_›
      · cases h
  · cases h

theorem exists_turn_of_proceed? (h : c.proceed? = some d) : ∃ next, Turn c next d := by
  cases proceeds_of_proceed? h with
  | frame hframes => exact ⟨_, .frame hframes⟩
  | chunk hinbound => exact ⟨_, .chunk hinbound⟩
  | streamEnd => exact ⟨_, .streamEnd⟩
  | shutDown => exact ⟨_, .shutDown⟩

theorem Live.drain (h : Live config low c) (hopen : c.opening = [])
    (hlow : ∀ timer, low timer ≤ c.now + config.timing.period timer) :
    Live config low c.drain ∧ c.drain.opening = [] := by
  fun_induction Connection.drain c with
  | case1 => exact ⟨h, hopen⟩
  | case2 c d hd ih =>
    obtain ⟨next, ht⟩ := exists_turn_of_proceed? hd
    refine ih (h.turn hopen hlow ht) (ht.opening.trans hopen) ?_
    rwa [now_proceed? hd]

theorem Steady.settle (h : Steady config c) :
    Steady config c.settle ∧ c.settle.opening = [] := by
  have hlow := h.next_le c.now
  obtain ⟨log, hreaches, hc⟩ := h
  have hopen : c.start.opening = [] := opening_execute _ _
  have hnow : c.start.now = c.now := now_execute _ _
  have hstart : Live config (fun _ => c.now + 1) c.start := by
    refine ⟨_, hreaches.start, ?_⟩
    rw [hopen]
    exact coherent_execute _ _ _ hlow hc
  rw [Steady, now_settle]
  exact hstart.drain hopen (by rwa [hnow])

/-! ## Time -/

theorem fire_of_not_due {timer : Timer}
    (h : ¬ ∃ due, c.deadlines.get timer = some due ∧ due ≤ c.now) : c.fire timer = c := by
  unfold fire
  split
  · rfl
  · exact if_neg fun hle => h ⟨_, ‹_›, hle⟩

/-- Serving a timer puts it off beyond now. -/
theorem Live.fire (h : Live config low c) (hopen : c.opening = []) {timer : Timer}
    (hraise : ∀ other, other ≠ timer → low' other ≤ low other)
    (hlow : ∀ other, low' other ≤ c.now + 1) :
    Live config low' (c.fire timer) ∧ (c.fire timer).opening = [] := by
  have hnext (other : Timer) : low' other ≤ c.now + config.timing.period other :=
    Nat.le_trans (hlow other) (h.next_le c.now other)
  obtain ⟨log, hreaches, hc⟩ := h
  rw [hopen] at hc
  by_cases hdue : ∃ due, c.deadlines.get timer = some due ∧ due ≤ c.now
  · obtain ⟨due, hget, hle⟩ := hdue
    have ht := Turn.timer hget hle
    have hopen' := ht.opening.trans hopen
    refine ⟨⟨_, hreaches.turn hopen ht, ?_⟩, hopen'⟩
    rw [hopen', fire_eq_feed hget hle]
    refine coherent_feed rfl ?_ ?_ hnext hc
    · rintro timer ⟨⟩
      exact Option.isSome_of_eq_some hget
    · exact fun other hne => hraise other fun heq => hne (heq ▸ rfl)
  · rw [fire_of_not_due hdue]
    refine ⟨⟨log, hreaches, ?_⟩, hopen⟩
    rw [hopen]
    refine ⟨hc.timing, hc.fits, fun other due hget => ?_⟩
    by_cases hother : other = timer
    · subst hother
      have hle : ¬ due ≤ c.now := fun hle => hdue ⟨due, hget, hle⟩
      have := hlow other
      omega
    · exact Nat.le_trans (hraise other hother) (hc.notBefore other due hget)

/-- The first of the timers that may be due is served, and is due no more. -/
theorem Live.fireHead {timer : Timer} {timers : List Timer}
    (h : Live config (fun other => if other ∈ timer :: timers then c.now else c.now + 1) c)
    (hopen : c.opening = []) :
    Live config (fun other => if other ∈ timers then (c.fire timer).now else (c.fire timer).now + 1)
        (c.fire timer) ∧ (c.fire timer).opening = [] := by
  rw [now_fire]
  refine h.fire hopen (fun other hne => ?_) fun other => ?_
  · simp [hne]
  · split <;> omega

theorem Live.fireAll (timers : List Timer)
    (h : Live config (fun timer => if timer ∈ timers then c.now else c.now + 1) c)
    (hopen : c.opening = []) :
    Live config (fun _ => c.now + 1) (timers.foldl Connection.fire c) ∧
      (timers.foldl Connection.fire c).opening = [] := by
  induction timers generalizing c with
  | nil => exact ⟨by simpa using h, hopen⟩
  | cons timer timers ih =>
    obtain ⟨hfire, hopen'⟩ := h.fireHead hopen
    have hall := ih hfire hopen'
    rw [now_fire] at hall
    exact hall

theorem Live.low_le (h : Live config low c) (hopen : c.opening = []) {timer : Timer} {due : Nat}
    (hget : c.deadlines.get timer = some due) : low timer ≤ due := by
  obtain ⟨log, -, hc⟩ := h
  rw [hopen] at hc
  exact hc.notBefore timer due hget

theorem Steady.now_lt (h : Steady config c) (hopen : c.opening = []) {timer : Timer} {due : Nat}
    (hget : c.deadlines.get timer = some due) : c.now < due := Live.low_le h hopen hget

/-- Time may pass up to the first deadline. -/
theorem Steady.wait (h : Steady config c) (hopen : c.opening = []) {time bound : Nat}
    (hle : c.now ≤ time) (hbound : time ≤ bound)
    (hdue : ∀ timer due, c.deadlines.get timer = some due → bound ≤ due) :
    Live config (fun _ => bound) { c with now := time } := by
  obtain ⟨log, hreaches, hc⟩ := h
  rw [hopen] at hc
  have ht := Turn.wait hle fun timer due hget => Nat.le_trans hbound (hdue timer due hget)
  refine ⟨_, hreaches.turn hopen ht, ?_⟩
  rw [ht.opening, hopen, Log.append_empty]
  exact ⟨hc.timing, hc.fits, hdue⟩

/-- As the time of a deadline comes, any timer may be due. -/
theorem Steady.due (h : Steady config c) (hopen : c.opening = []) {time : Nat} (hle : c.now ≤ time)
    (hdue : ∀ timer due, c.deadlines.get timer = some due → time ≤ due) :
    Live config (fun timer => if timer ∈ Timer.all then time else time + 1)
      { c with now := time } := by
  have hall : (fun timer => if timer ∈ Timer.all then time else time + 1) = fun _ => time := by
    funext timer
    rw [if_pos (by cases timer <;> decide)]
  rw [hall]
  exact h.wait hopen hle (Nat.le_refl time) hdue

/-- The time comes, and everything happens that happens then. -/
theorem Steady.jumpTo (h : Steady config c) (hopen : c.opening = []) {time : Nat}
    (hle : c.now ≤ time) (hdue : ∀ timer due, c.deadlines.get timer = some due → time ≤ due) :
    Steady config (c.jumpTo time) ∧ (c.jumpTo time).opening = [] := by
  obtain ⟨hserved, hopen'⟩ := Live.fireAll Timer.all (h.due hopen hle hdue) hopen
  rw [Steady, now_jumpTo]
  refine Live.drain hserved hopen' fun timer => ?_
  rw [now_fireDue]
  exact h.next_le time timer

theorem Steady.advanceTo (h : Steady config c) (hopen : c.opening = []) {time : Nat}
    (hle : c.now ≤ time) :
    Steady config (c.advanceTo time) ∧ (c.advanceTo time).opening = [] := by
  fun_induction Connection.advanceTo time c with
  | case1 c hnone =>
    have hdue := Deadlines.le_of_earliest_eq_none hnone (time + 1)
    exact ⟨h.wait hopen hle (Nat.le_add_right time 1) hdue, hopen⟩
  | case2 c first hfirst hbefore ih =>
    obtain ⟨hjump, hopen'⟩ := h.jumpTo hopen (Nat.le_of_lt hbefore.1) fun timer due hget =>
      Deadlines.earliest_le hfirst hget
    exact ih hjump hopen' (by rw [now_jumpTo]; exact hbefore.2)
  | case3 c first hfirst hbefore =>
    refine ⟨h.wait hopen hle (Nat.le_add_right time 1) fun timer due hget => ?_, hopen⟩
    obtain ⟨served, hserved⟩ := Deadlines.exists_get_of_earliest hfirst
    have hlt : c.now < first := h.now_lt hopen hserved
    have hfirst_le : first ≤ due := Deadlines.earliest_le hfirst hget
    show time + 1 ≤ due
    omega

theorem Steady.sleep (h : Steady config c) (ms : Nat) : Steady config (c.sleep ms) := by
  obtain ⟨hsettle, hopen⟩ := h.settle
  refine (hsettle.advanceTo hopen ?_).1
  rw [now_settle]
  exact Nat.le_add_right ..

theorem Steady.passUntil (h : Steady config c) (hopen : c.opening = [])
    (ready : Connection π → Bool) {limit : Nat} (hle : c.now ≤ limit) :
    Steady config (c.passUntil ready limit).1 := by
  fun_induction Connection.passUntil ready limit c with
  | case1 => exact h
  | case2 c _ hnone =>
    have hdue := Deadlines.le_of_earliest_eq_none hnone (limit + 1)
    exact h.wait hopen hle (Nat.le_add_right limit 1) hdue
  | case3 c _ first hfirst hbefore ih =>
    obtain ⟨hjump, hopen'⟩ := h.jumpTo hopen (Nat.le_of_lt hbefore.1) fun timer due hget =>
      Deadlines.earliest_le hfirst hget
    exact ih hjump hopen' (by rw [now_jumpTo]; exact Nat.le_of_lt hbefore.2)
  | case4 => exact (h.advanceTo hopen hle).1

theorem Steady.waitUntil (h : Steady config c) (ready : Connection π → Bool) (limit : Nat) :
    Steady config (c.waitUntil ready limit).1 := by
  unfold Connection.waitUntil
  split
  · exact h
  · split
    · exact h
    · obtain ⟨hsettle, hopen⟩ := h.settle
      refine hsettle.passUntil hopen ready ?_
      rw [now_settle]
      omega

/-! ## Clients -/

theorem Steady.request (h : Steady config c) (changes : List Change) :
    Steady config (c.request changes).1 := by
  obtain ⟨hsettle, hopen⟩ := h.settle
  unfold Connection.request
  split
  case isFalse => exact h
  case isTrue =>
    dsimp only
    split
    case h_2 => exact hsettle
    case h_1 r hr =>
      have hlow := hsettle.next_le c.settle.now
      have hopen' := (opening_execute { c.settle with session := r.1 } r.2).trans hopen
      have htaken := (Live.turn hsettle hopen hlow (.request hr)).drain hopen' (by simpa using hlow)
      simpa [Steady] using htaken.1

theorem Steady.close (h : Steady config c) : Steady config c.close := by
  obtain ⟨hsettle, hopen⟩ := h.settle
  unfold Connection.close
  split
  · have hclosed := Live.turn hsettle hopen (hsettle.next_le c.settle.now) .shutDown
    rwa [Steady, now_shutDown]
  · exact h

/-- **What clients can make of a connection**, together with a far end that does what it likes. -/
inductive Operated (config : Config) : Connection π → Prop
  | opened {peer : π} {c : Connection π} (h : openTo config peer = .ok c) : Operated config c
  /-- The far end changes by itself. -/
  | peer {c : Connection π} (h : Operated config c) (peer : π) : Operated config { c with peer }
  | arrive {c : Connection π} (h : Operated config c) (chunk : Bytes) :
      Operated config (c.arrive chunk)
  | hangUp {c : Connection π} (h : Operated config c) : Operated config c.hangUp
  | clone {c : Connection π} (h : Operated config c) : Operated config c.clone
  | dropHandle {c : Connection π} (h : Operated config c) (index : Nat) :
      Operated config (c.dropHandle index)
  | listen {c : Connection π} (h : Operated config c) (listener : Listener) :
      Operated config (c.listen listener)
  | takeStatusAvailable {c : Connection π} (h : Operated config c) :
      Operated config c.takeStatusAvailable.1
  | takeCommsChanged {c : Connection π} (h : Operated config c) :
      Operated config c.takeCommsChanged.1
  | request {c : Connection π} (h : Operated config c) (changes : List Change) :
      Operated config (c.request changes).1
  | sleep {c : Connection π} (h : Operated config c) (ms : Nat) : Operated config (c.sleep ms)
  | waitUntil {c : Connection π} (h : Operated config c) (ready : Connection π → Bool)
      (limit : Nat) : Operated config (c.waitUntil ready limit).1
  | close {c : Connection π} (h : Operated config c) : Operated config c.close

/-- **Every operation is a run**, and at its end no timer is due. -/
theorem Operated.steady (h : Operated config c) : Steady config c := by
  induction h with
  | opened h => exact steady_opened h
  | @peer c _ peer ih => exact ih.outside peer c.frames c.inbound c.hungUp c.handles c.board
  | @arrive c _ chunk ih =>
    exact (ih.outside c.peer c.frames (c.inbound ++ [chunk]) c.hungUp c.handles c.board).settle.1
  | @hangUp c _ ih => exact (ih.outside c.peer c.frames c.inbound true c.handles c.board).settle.1
  | @clone c _ ih =>
    exact ih.outside c.peer c.frames c.inbound c.hungUp (c.handles ++ [c.isHeld]) c.board
  | @dropHandle c _ index ih =>
    have hdropped :=
      ih.outside c.peer c.frames c.inbound c.hungUp (c.handles.set index false) c.board
    unfold Connection.dropHandle
    dsimp only
    split
    · exact hdropped.settle.1
    · exact hdropped
  | @listen c _ listener ih =>
    exact ih.outside c.peer c.frames c.inbound c.hungUp c.handles
      { c.board with listener := some listener }
  | @takeStatusAvailable c _ ih =>
    exact ih.outside c.peer c.frames c.inbound c.hungUp c.handles c.board.takeStatusAvailable.1
  | @takeCommsChanged c _ ih =>
    exact ih.outside c.peer c.frames c.inbound c.hungUp c.handles c.board.takeCommsChanged.1
  | request _ changes ih => exact ih.request changes
  | sleep _ ms ih => exact ih.sleep ms
  | waitUntil _ ready limit ih => exact ih.waitUntil ready limit
  | close _ ih => exact ih.close

/-- Whatever clients do, a run leads to it: what holds of every run holds of the connection. -/
theorem Operated.exists_reaches (h : Operated config c) : ∃ log, Reaches config log c := by
  obtain ⟨log, hreaches, -⟩ := h.steady
  exact ⟨log, hreaches⟩

end Connection

end DomeLink
