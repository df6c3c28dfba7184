import DomeLink.Proofs.Session.Comms
import DomeLink.Proofs.Session.OneShots
import Mathlib.Data.List.Chain

/-!
# The link is found and lost by turns

Clients begin without a link and are told of every change (`tellsEdge_step`). So what they have been
told alternates, and the last of it is `commsOk`.

A change has one of two causes: a valid acknowledgement (`TakesAck`), after which the link is there,
or an exchange that fails (`FailsExchange`), after which it is not. Both hold whether clients have
to be told or not.

* `Transition.commsOk_cases`: what a step does to `commsOk`, and by which cause.
* `edges_alternate`: the same for every run from the opening.
-/

namespace DomeLink.Session

open DomeLink.Action (edges)

variable {s t : Session} {i : SessionInput} {r : Step}

/-- **The exchange fails**: an awaited reply is refused, the time for it runs out, or the request
could not be sent. The wait for the initial status does not fail in this way. -/
inductive FailsExchange (s : Session) : SessionInput → Prop
  | refused {frame : Bytes} (h : s.state.canFail = true) (hf : ¬ s.state.Takes frame) :
      FailsExchange s (.frame frame)
  | timeout (h : s.state.canFail = true) : FailsExchange s (.timer .response)
  | transmitError (h : s.state.canFail = true) : FailsExchange s .transmitError

/-! ## The two causes -/

theorem FailsExchange.endsExchange (h : s.FailsExchange i) : s.endsExchange i = true := by
  cases h with
  | refused h => exact Bool.or_eq_true_iff.2 (.inl h)
  | timeout h | transmitError h => exact h

/-- A status that cannot be taken over is none. -/
theorem not_takes_of_applyChanges {frame : Bytes} {e : Fault} (hs : s.state = .awaitStatus)
    (hf : s.status.applyChanges s.rawStatus frame = .error e) : ¬ s.state.Takes frame := by
  intro htakes
  rw [hs] at htakes
  obtain ⟨result, hresult⟩ := exists_applyChanges (s := s) htakes
  cases hf.symm.trans hresult

theorem not_takes_of_checkReply {frame : Bytes} {e : Fault} (hs : s.state = .awaitCommandAck)
    (hf : Frame.checkReply .commandAck frame = .error e) : ¬ s.state.Takes frame := by
  intro htakes
  rw [hs] at htakes
  cases hf.symm.trans htakes

/-- **Why the end of an exchange changes `commsOk`.** -/
theorem Settles.commsOk_cases (ht : s.Settles i t) :
    t.commsOk = s.commsOk ∨ s.TakesAck i ∧ t.commsOk = true ∨
      s.FailsExchange i ∧ t.commsOk = false := by
  cases ht with
  | seeded | refreshed => exact .inl rfl
  | acknowledged hs hf => exact .inr (.inl ⟨⟨hs, _, rfl, hf⟩, rfl⟩)
  | badStatus hs hf =>
    have hcan : s.state.canFail = true := by rw [hs]; rfl
    exact .inr (.inr ⟨.refused hcan (not_takes_of_applyChanges hs hf), rfl⟩)
  | badAck hs hf =>
    have hcan : s.state.canFail = true := by rw [hs]; rfl
    exact .inr (.inr ⟨.refused hcan (not_takes_of_checkReply hs hf), rfl⟩)
  | timeout hcan => exact .inr (.inr ⟨.timeout hcan, rfl⟩)
  | transmitError hcan => exact .inr (.inr ⟨.transmitError hcan, rfl⟩)

/-- An exchange that fails is not settled by a good reply. -/
theorem Settles.commsOk_of_failsExchange (ht : s.Settles i t) (h : s.FailsExchange i) :
    t.commsOk = false := by
  cases ht with
  | seeded hs =>
    cases h with
    | refused hcan =>
      rw [hs] at hcan
      cases hcan
  | refreshed hs hf =>
    cases h with
    | refused _ hnot =>
      obtain ⟨status, hstatus, -⟩ := bind_eq_ok.1 hf
      rw [hs] at hnot
      exact absurd ⟨status, hstatus⟩ hnot
  | acknowledged hs hf =>
    cases h with
    | refused _ hnot =>
      rw [hs] at hnot
      exact absurd hf hnot
  | badStatus | badAck | timeout | transmitError => rfl

/-- **Why a step changes `commsOk`.** -/
theorem Transition.commsOk_cases (htr : Transition s i r) :
    r.1.commsOk = s.commsOk ∨ s.TakesAck i ∧ r.1.commsOk = true ∨
      s.FailsExchange i ∧ r.1.commsOk = false := by
  cases htr with
  | @finish _ t before ht =>
    rw [commsOk_resolve]
    exact ht.commsOk_cases
  | _ => exact .inl rfl

theorem commsOk_step_of_takesAck (h : s.TakesAck i) : (s.step i).1.commsOk = true := by
  obtain ⟨t, before, ht, -, hstep⟩ := exists_settles h.settles.endsExchange
  rw [hstep, commsOk_resolve, ht.eq_acknowledged h]
  rfl

theorem commsOk_step_of_failsExchange (h : s.FailsExchange i) :
    (s.step i).1.commsOk = false := by
  obtain ⟨t, before, ht, -, hstep⟩ := exists_settles h.endsExchange
  rw [hstep, commsOk_resolve, ht.commsOk_of_failsExchange h]

/-! ## What one step tells -/

/-- What is told is the new `commsOk`, which has changed. -/
theorem TellsEdge.eq_of_mem (h : s.TellsEdge r) {ok : Bool} (hok : ok ∈ edges r.2) :
    r.1.commsOk = ok ∧ ok ≠ s.commsOk := by
  rw [TellsEdge] at h
  rw [h] at hok
  split at hok
  · cases hok
  · rename_i hne
    rw [List.mem_singleton] at hok
    rw [hok]
    exact ⟨rfl, hne⟩

theorem TellsEdge.length_le (h : s.TellsEdge r) : (edges r.2).length ≤ 1 := by
  rw [TellsEdge] at h
  rw [h]
  split
  · exact Nat.zero_le 1
  · exact Nat.le_refl 1

/-- The link is found by an acknowledgement. -/
theorem takesAck_of_true_mem (h : true ∈ edges (s.step i).2) : s.TakesAck i := by
  obtain ⟨hnew, hne⟩ := (tellsEdge_step s i).eq_of_mem h
  rcases (s.step_transition i).commsOk_cases with hsame | ⟨hack, -⟩ | ⟨-, hfalse⟩
  · exact absurd (hnew.symm.trans hsame) hne
  · exact hack
  · cases hnew.symm.trans hfalse

/-- The link is lost with an exchange that fails. -/
theorem failsExchange_of_false_mem (h : false ∈ edges (s.step i).2) : s.FailsExchange i := by
  obtain ⟨hnew, hne⟩ := (tellsEdge_step s i).eq_of_mem h
  rcases (s.step_transition i).commsOk_cases with hsame | ⟨-, htrue⟩ | ⟨hfails, -⟩
  · exact absurd (hnew.symm.trans hsame) hne
  · cases hnew.symm.trans htrue
  · exact hfails

/-! ## What a run tells -/

/-- **Values told by turns**: each differs from the one before, the first one from false, and the
last one is the present value. -/
structure Alternates (told : List Bool) (present : Bool) : Prop where
  chain : (false :: told).IsChain (· ≠ ·)
  latest : told.getLast?.getD false = present

theorem alternates_nil : Alternates [] false := ⟨.singleton false, rfl⟩

/-- A step that tells what it changes carries the turns on. -/
theorem Alternates.append {told : List Bool} (h : Alternates told s.commsOk)
    (hr : s.TellsEdge r) : Alternates (told ++ edges r.2) r.1.commsOk := by
  rw [TellsEdge] at hr
  rw [hr]
  split
  · rename_i hsame
    rw [List.append_nil, hsame]
    exact h
  · rename_i hne
    refine ⟨?_, by rw [List.getLast?_concat]; rfl⟩
    rw [← List.cons_append]
    refine h.chain.append (.singleton _) ?_
    intro last hlast next hnext
    rw [List.getLast?_cons, h.latest] at hlast
    cases hlast
    cases hnext
    exact Ne.symm hne

theorem alternates_transcript (timing : Timing) (inputs : List SessionInput) :
    Alternates (edges (transcript timing inputs)) (reached timing inputs).commsOk := by
  induction inputs using List.reverseRecOn with
  | nil => exact alternates_nil
  | append_singleton inputs i ih =>
    rw [transcript_snoc, reached_snoc, Action.edges_append]
    exact ih.append (tellsEdge_step _ i)

/-- **The news of the link**, after the inputs of a run and with one more input. -/
structure LinkNews (timing : Timing) (inputs : List SessionInput) : Prop where
  /-- The opening tells nothing. -/
  opening : edges (opened timing).2 = []
  /-- The link is found and lost by turns, and `commsOk` is what has been told last. -/
  alternates : Alternates (edges (transcript timing inputs)) (reached timing inputs).commsOk
  /-- One input brings one change at most. -/
  single : ∀ i, (edges ((reached timing inputs).step i).2).length ≤ 1
  /-- Only an acknowledgement finds the link. -/
  found : ∀ i, true ∈ edges ((reached timing inputs).step i).2 → (reached timing inputs).TakesAck i
  /-- Only an exchange that fails loses it. -/
  lost : ∀ i, false ∈ edges ((reached timing inputs).step i).2 →
    (reached timing inputs).FailsExchange i
  /-- With every acknowledgement the link is there. -/
  acknowledged : ∀ i, (reached timing inputs).TakesAck i →
    ((reached timing inputs).step i).1.commsOk = true
  /-- With every exchange that fails it is not. -/
  failed : ∀ i, (reached timing inputs).FailsExchange i →
    ((reached timing inputs).step i).1.commsOk = false

/-- **The link is found and lost by turns, and for the right reason**, whatever happens. -/
theorem edges_alternate (timing : Timing) (inputs : List SessionInput) :
    LinkNews timing inputs where
  opening := rfl
  alternates := alternates_transcript timing inputs
  single := fun i => (tellsEdge_step _ i).length_le
  found := fun _ => takesAck_of_true_mem
  lost := fun _ => failsExchange_of_false_mem
  acknowledged := fun _ => commsOk_step_of_takesAck
  failed := fun _ => commsOk_step_of_failsExchange

/-- Two failures in a row are told of once. -/
example :
    edges (transcript {} [.frame ({} : Status).encode, .frame (Frame.commandAck 0),
      .timer .heartbeat, .timer .response, .timer .heartbeat, .transmitError, .timer .heartbeat,
      .frame (Frame.commandAck 0)]) = [true, false, true] := by
  decide +kernel

end DomeLink.Session
