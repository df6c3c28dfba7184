import DomeLink.Proofs.Connection.Clients

/-!
# What a connection does by itself

Between the requests of its clients a connection makes ticks. `Occurs` says what a tick is to the
session, with the connection as that begins to happen (`Taken`): a frame is handled, or a timer is
served, and then no timer that comes before it is due.

* `Linked.tick`: ticks leave a connection linked.
* `Sustains`: what holds of a connection from its beginning on, whatever ticks it makes.
* `Sustains.performAll`: with what requests and changes of the hardware keep, deeds keep it too.
-/

namespace DomeLink.Connection

variable {config : Config} {c d : Connection Simulator}

/-- **What a tick is to the session.** -/
inductive Occurs (c : Connection Simulator) : Connection Simulator → Prop
  | quiet {d : Connection Simulator} (h : Quiet c d) : Occurs c d
  | frame {frame : Bytes} {e : Connection Simulator} (ht : Taken c (.frame frame) e) :
      Occurs c (e.feed (.frame frame))
  | timer {timer : Timer} {e : Connection Simulator} (ht : Taken c (.timer timer) e)
      (hfirst : ∀ other due, other.index < timer.index → c.deadlines.get other = some due →
        c.now < due) : Occurs c (e.feed (.timer timer))

/-- **Ticks leave a connection linked**, as long as it runs. -/
theorem Linked.tick (h : Linked config c) (ht : Tick c d) (hrun : d.running = true) :
    Linked config d ∧ Occurs c d := by
  obtain ⟨hd, -⟩ := h.move ht.move hrun
  have hbefore := ht.move.running hrun
  refine ⟨hd, ?_⟩
  cases ht with
  | proceed hproceed =>
    cases proceeds_of_proceed? hproceed with
    | frame hframes =>
      rw [handleFrame_eq_feed]
      exact .frame (.frame hframes)
    | chunk hinbound => exact .quiet (h.readChunk hinbound hd.reaches).2
    | streamEnd hhungUp => exact absurd (h.hungUp.symm.trans hhungUp) nofun
    | shutDown => cases hrun
  | serve hget hdue hfirst =>
    rw [fire_eq_feed hget hdue]
    exact .timer (.timer hget hdue) hfirst
  | wait hstill hle => exact .quiet (h.wait hbefore hstill hle hd.reaches).2

/-! ## What ticks keep -/

/-- What holds of a connection from its beginning on: `F` before it has begun, and `P` from then on,
whatever ticks it makes. -/
structure Sustains (config : Config) (F P : Connection Simulator → Prop) : Prop where
  begins : ∀ c, Fresh config c → F c → P c.start
  occurs : ∀ c d, Linked config c → Occurs c d → P c → P d

variable {F P : Connection Simulator → Prop}

/-- What ticks keep holds of all that ticks lead to. -/
theorem Sustains.ticks (hk : Sustains config F P) (hticks : Ticks c d)
    (hc : c.running = true → Linked config c ∧ P c) (hrun : d.running = true) :
    Linked config d ∧ P d := by
  refine Linked.keep (R := Tick) (fun _ _ => Tick.move) (fun c d hlinked ht hrun hc => ?_) hticks hc
    hrun
  exact hk.occurs c d hlinked (hlinked.tick ht hrun).2 hc

/-- After a connection has settled, too. -/
theorem Sustains.ticks_of_settle (hk : Sustains config F P) (h : Between config F P c)
    (hticks : Ticks c.settle d) (hrun : d.running = true) : Linked config d ∧ P d :=
  hk.ticks ((ticks_settle c).trans hticks) (h.begun hk.begins) hrun

/-- A settled connection that runs has begun. -/
theorem Sustains.settled (hk : Sustains config F P) (h : Between config F P c)
    (hrun : c.settle.running = true) :
    Linked config c.settle ∧ c.settle.arriving = [] ∧ P c.settle := by
  obtain ⟨hlinked, hc⟩ := hk.ticks_of_settle h .refl hrun
  exact ⟨hlinked, hlinked.arriving_of_still hrun (proceed?_settle c), hc⟩

theorem Sustains.settle (hk : Sustains config F P) (h : Between config F P c) :
    Between config F P c.settle :=
  .of_still h.steady.settle.1 (proceed?_settle c) (hk.ticks_of_settle h .refl)

theorem Sustains.sleep (hk : Sustains config F P) (h : Between config F P c) (ms : Nat) :
    Between config F P (c.sleep ms) := by
  obtain ⟨hticks, hstill⟩ := ticks_sleep h.steady ms
  exact .of_still (h.steady.sleep ms) hstill (hk.ticks_of_settle h hticks)

/-- A request is taken where nothing is on its way and no timer is due. -/
theorem Sustains.request (hk : Sustains config F P)
    (htake : ∀ c d changes, Steady config c → Linked config c → c.arriving = [] →
      Fed c (.update changes) d → P c → P d)
    (h : Between config F P c) (changes : List Change) :
    Between config F P (c.request changes).1 := by
  have hsteady := h.steady.request changes
  unfold Connection.request at hsteady ⊢
  by_cases hrun : c.running = true
  · rw [if_pos hrun] at hsteady ⊢
    dsimp only at hsteady ⊢
    split
    case h_2 => exact hk.settle h
    case h_1 r hr =>
      rw [hr] at hsteady
      refine .of_still hsteady (proceed?_drain _) (hk.ticks (ticks_drain _) fun htaken => ?_)
      rw [running_execute] at htaken
      obtain ⟨hlinked, harriving, hc⟩ := hk.settled h htaken
      have hfed : Fed c.settle (.update changes) ({ c.settle with session := r.1 }.execute r.2) := by
        rw [execute_eq_feed hr]
        exact hlinked.fed (.update harriving)
      obtain ⟨hlinked', -⟩ := hlinked.move (.request (proceed?_settle c) hr)
        ((running_execute _ _).trans htaken)
      exact ⟨hlinked', htake _ _ changes h.steady.settle.1 hlinked harriving hfed hc⟩
  · rw [if_neg hrun]
    exact h

/-- **What ticks keep, deeds keep**, if requests and changes of the hardware do. -/
theorem Sustains.performAll (hk : Sustains config F P)
    (htake : ∀ c d changes, Steady config c → Linked config c → c.arriving = [] →
      Fed c (.update changes) d → P c → P d)
    (hF : ∀ c change, F c → F (perform c (.hardware change)))
    (hP : ∀ c change, P c → P (perform c (.hardware change))) (h : Between config F P c)
    (deeds : List Deed) : Between config F P (c.performAll deeds) :=
  performAll_keeps (fun _ changes h => hk.request htake h changes) (fun _ ms h => hk.sleep h ms)
    (fun c change h => h.outside _ c.handles c.board rfl (hF c change) (hP c change)) h deeds

end DomeLink.Connection
