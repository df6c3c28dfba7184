import DomeLink.Proofs.Session.Comms

/-!
# A closed session does nothing

Nothing that happens to a closed session makes it do anything. Clients may still change the command,
and it is never sent. So a session that is closed stays closed, and all that it is known by stays
(`Stays`).

* `stays_step`: what a closed session does with one input.
* `stays_run`: and with any number of them.
* `closed_close`: closing leaves nothing outstanding, also if the session has been closed before.
-/

namespace DomeLink.Session

variable {s t : Session} {timing : Timing}

/-- The session is closed, and has nothing more to send. -/
structure Closed (s : Session) : Prop where
  state : s.state = .closed
  pending : s.commandPending = false

/-- A closed session is still closed, and knows what it knew. -/
structure Stays (s t : Session) : Prop where
  closed : t.Closed
  status : t.status = s.status
  commsOk : t.commsOk = s.commsOk

theorem Closed.stays (h : s.Closed) : s.Stays s := ⟨h, rfl, rfl⟩

theorem Stays.trans {u : Session} (h : s.Stays t) (h' : t.Stays u) : s.Stays u :=
  ⟨h'.closed, h'.status.trans h.status, h'.commsOk.trans h.commsOk⟩

/-- **A closed session does nothing**, whatever happens. -/
theorem stays_step (h : s.Closed) (i : SessionInput) :
    (s.step i).2 = [] ∧ s.Stays (s.step i).1 := by
  have hidle (i : SessionInput) (hi : s.step i = (s, [])) :
      (s.step i).2 = [] ∧ s.Stays (s.step i).1 := by
    rw [hi]
    exact ⟨rfl, h.stays⟩
  cases i with
  | frame frame => exact hidle _ (by simp only [step, onFrame, h.state])
  | timer timer => exact hidle _ (if_pos h.state)
  | update changes =>
    cases hc : s.command.changeAll changes with
    | error e => exact hidle _ (step_update_of_error hc)
    | ok command =>
      have hi : s.step (.update changes) = ({ s with command }, []) := by
        rw [step_update_of_ok hc]
        simp only [issueCommand, h.state]
      rw [hi]
      exact ⟨rfl, ⟨h.state, h.pending⟩, rfl, rfl⟩
  | transmitError => exact hidle _ (by simp only [step, onTransmitError, h.state])
  | close => exact hidle _ (if_pos h.state)

/-- **A closed session is closed for good**: in the course of any inputs it does nothing. -/
theorem stays_run (h : s.Closed) (inputs : List SessionInput) :
    (∀ actions ∈ s.runActions inputs, actions = []) ∧ s.Stays (s.run inputs) := by
  induction inputs generalizing s with
  | nil => exact ⟨nofun, h.stays⟩
  | cons i is ih =>
    obtain ⟨hnothing, hstep⟩ := stays_step h i
    obtain ⟨hactions, hrun⟩ := ih hstep.closed
    refine ⟨fun actions hmem => ?_, hstep.trans hrun⟩
    rcases List.mem_cons.1 hmem with rfl | hmem
    · exact hnothing
    · exact hactions actions hmem

/-- Every session that is closed in a run has nothing more to send. -/
theorem closed_reached (timing : Timing) (inputs : List SessionInput)
    (hs : (reached timing inputs).state = .closed) : (reached timing inputs).Closed := by
  induction inputs using List.reverseRecOn with
  | nil => cases hs
  | append_singleton inputs i ih =>
    rw [reached_snoc] at hs ⊢
    by_cases hbefore : (reached timing inputs).state = .closed
    · exact (stays_step (ih hbefore) i).2.closed
    · have hi : i = .close := Decidable.byContradiction fun hi =>
        ((reached timing inputs).step_transition i).ne_closed hbefore hi hs
      subst hi
      refine ⟨hs, ?_⟩
      simp only [step, close, if_neg hbefore]

/-- Closing leaves nothing to be sent, whether or not the session has been closed before. -/
theorem closed_close (timing : Timing) (inputs : List SessionInput) :
    (reached timing inputs).close.1.Closed := by
  have hclose : (reached timing inputs).close.1 = reached timing (inputs ++ [.close]) :=
    (reached_snoc timing inputs .close).symm
  rw [hclose]
  refine closed_reached timing _ ?_
  rw [← hclose]
  exact state_close _

/-- Closing a session leaves what it knows. -/
theorem stays_close (timing : Timing) (inputs : List SessionInput) :
    (reached timing inputs).Stays (reached timing inputs).close.1 := by
  refine ⟨closed_close timing inputs, ?_, ?_⟩
  all_goals
    unfold close
    split <;> rfl

end DomeLink.Session
