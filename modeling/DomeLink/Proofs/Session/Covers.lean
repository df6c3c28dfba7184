import DomeLink.Proofs.Command.Covers
import DomeLink.Proofs.Session.Commands
import DomeLink.Proofs.Session.Status

/-!
# Requests to the covers stay until they are done

A request to the shutter or to the dropout goes out with every command, until the controller reports
it as done. Then a session takes it back, and sends the command without it at once, so that the
controller is not asked again.

* `confirms_step`: what a status does to the requests, and what the session sends then.
* `Transition.isMade`: what else can happen to a request. Nothing takes it back but such a status
  and a change to the same cover (`Withdraws`).
* `cover_requests_kept`: both for every run from the opening.
-/

namespace DomeLink.Session

variable {s t : Session} {i : SessionInput} {r : Step} {frame : Bytes} {status : Status}
  {q : CoverRequest}

/-! ## A status that is awaited -/

/-- The step takes a request back. -/
def TakesBack (s : Session) (r : Step) : Prop :=
  ∃ q : CoverRequest, q.isMade s.command = true ∧ q.isMade r.1.command = false

/-- **What a status does** to a session that awaits one. -/
structure Confirms (s : Session) (status : Status) (r : Step) : Prop where
  taken : r.1.status = status
  /-- A request stays if the status does not report it as done. -/
  requests : ∀ q : CoverRequest, q.isMade r.1.command = (q.isMade s.command && !q.isDone status)
  /-- Nothing else of the command changes. -/
  besides : r.1.command.withoutCovers = s.command.withoutCovers
  /-- The command goes out if a request has been taken back, or if it waited. -/
  sends : TakesBack s r ∨ s.commandPending = true → Action.frames r.2 = [r.1.command.encode]
  /-- Nothing goes out otherwise. -/
  silent : ¬ (TakesBack s r ∨ s.commandPending = true) → Action.frames r.2 = []

/-- Where the reply that is kept is read as the status, bringing the status up to date is reading
the new reply. -/
theorem applyChanges_of_decode (hkept : Status.decode s.rawStatus = .ok s.status)
    (hf : Status.decode frame = .ok status) :
    ∃ changed, s.status.applyChanges s.rawStatus frame = .ok (status, changed) := by
  rw [Status.applyChanges_eq_decode hkept, hf]
  exact ⟨_, rfl⟩

theorem Settles.eq_refreshed (ht : s.Settles (.frame frame) t) (hs : s.state = .awaitStatus)
    {changed : List StatusField}
    (hf : s.status.applyChanges s.rawStatus frame = .ok (status, changed)) :
    t = s.refreshed frame status := by
  cases ht with
  | seeded h | acknowledged h | badAck h => cases h.symm.trans hs
  | refreshed _ hf' =>
    cases hf.symm.trans hf'
    rfl
  | badStatus _ hf' => cases hf.symm.trans hf'

theorem isMade_resolve (q : CoverRequest) (s : Session) :
    q.isMade s.resolve.1.command = q.isMade s.command := by
  unfold resolve
  split <;> rfl

theorem withoutCovers_resolve (s : Session) :
    s.resolve.1.command.withoutCovers = s.command.withoutCovers := by
  unfold resolve
  split <;> rfl

/-- **A status takes back what it reports as done**, and what is left is sent if that changed it or
if it waited. -/
theorem confirms_step (hs : s.state = .awaitStatus)
    (hkept : Status.decode s.rawStatus = .ok s.status) (hf : Status.decode frame = .ok status) :
    Confirms s status (s.step (.frame frame)) := by
  obtain ⟨changed, hchanges⟩ := applyChanges_of_decode hkept hf
  have hends : s.endsExchange (.frame frame) = true := by
    simp [endsExchange, hs, SessionState.canFail]
  obtain ⟨t, before, ht, hsends, hstep⟩ := exists_settles hends
  have hquiet := Action.frames_eq_nil hsends
  obtain rfl := ht.eq_refreshed hs hchanges
  rw [hstep]
  have htakes : TakesBack s ((s.refreshed frame status).resolve.1, before ++
      (s.refreshed frame status).resolve.2) ↔ s.command.isConfirmedBy status = true := by
    rw [Command.isConfirmedBy_iff]
    exact exists_congr fun q => and_congr_right' (by rw [isMade_resolve]; rfl)
  have hwaits : (s.refreshed frame status).commandPending = true ↔
      TakesBack s ((s.refreshed frame status).resolve.1, before ++
        (s.refreshed frame status).resolve.2) ∨ s.commandPending = true := by
    rw [htakes, or_comm]
    exact Bool.or_eq_true_iff
  exact {
    taken := status_resolve _
    requests := fun q => (isMade_resolve q _).trans (Command.isMade_confirm q s.command status)
    besides := (withoutCovers_resolve _).trans (Command.withoutCovers_confirm s.command status)
    sends := fun hneeded => by
      rw [resolve_of_pending (hwaits.2 hneeded), Action.frames_append, hquiet]
      rfl
    silent := fun hidle => by
      rw [resolve_of_not_pending (Bool.eq_false_iff.2 fun hp => hidle (hwaits.1 hp)),
        List.append_nil, hquiet] }

/-! ## What takes a request back -/

/-- **The input takes the request back**: an awaited status that reports it as done, or an update
with a change to the same cover. -/
inductive Withdraws (q : CoverRequest) (s : Session) : SessionInput → Prop
  | done {frame : Bytes} {status : Status} (h : s.state = .awaitStatus)
      (hf : Status.decode frame = .ok status) (hdone : q.isDone status = true) :
      Withdraws q s (.frame frame)
  | changed {ms : List Change} {m : Change} {c : Command} (hms : s.command.changeAll ms = .ok c)
      (hm : m ∈ ms) (habout : q.isAbout m = true) : Withdraws q s (.update ms)

/-- The end of an exchange keeps a request, unless a status reports it as done. -/
theorem Settles.isMade (ht : s.Settles i t)
    (hkept : s.state.canFail = true → Status.decode s.rawStatus = .ok s.status)
    (hmade : q.isMade s.command = true) : q.isMade t.command = true ∨ Withdraws q s i := by
  cases ht with
  | @refreshed frame status changed hs hf =>
    rw [Status.applyChanges_eq_decode (hkept (by rw [hs]; rfl))] at hf
    obtain ⟨fresh, hfresh, heq⟩ := map_eq_ok.1 hf
    cases heq
    have hstays : q.isMade (s.command.confirm status) = (q.isMade s.command && !q.isDone status) :=
      Command.isMade_confirm q s.command status
    cases hdone : q.isDone status with
    | true => exact .inr (.done hs hfresh hdone)
    | false =>
      rw [hmade, hdone] at hstays
      exact .inl hstays
  | seeded | acknowledged | badStatus | badAck | timeout | transmitError => exact .inl hmade

/-- Changes keep a request, unless one of them is to the same cover. -/
theorem isMade_or_withdraws {ms : List Change} {c : Command}
    (hms : s.command.changeAll ms = .ok c) (hmade : q.isMade s.command = true) :
    q.isMade c = true ∨ Withdraws q s (.update ms) := by
  by_cases habout : ∃ m ∈ ms, q.isAbout m = true
  · obtain ⟨m, hm, habout⟩ := habout
    exact .inr (.changed hms hm habout)
  · have hnone : ∀ m ∈ ms, q.isAbout m = false := fun m hm =>
      Bool.eq_false_iff.2 fun h => habout ⟨m, hm, h⟩
    rw [Command.isMade_changeAll hms hnone]
    exact .inl hmade

/-- **A step keeps a request, or takes it back** for one of the two reasons. -/
theorem Transition.isMade (htr : Transition s i r)
    (hkept : s.state.canFail = true → Status.decode s.rawStatus = .ok s.status)
    (hmade : q.isMade s.command = true) : q.isMade r.1.command = true ∨ Withdraws q s i := by
  cases htr with
  | ignore | retry | poll | pollLater | beat | beatLater | close => exact .inl hmade
  | @update _ c hms => exact isMade_or_withdraws (c := c) hms hmade
  | updateLater hms | updateClosed hms => exact isMade_or_withdraws hms hmade
  | @finish _ t _ ht =>
    rw [isMade_resolve]
    exact ht.isMade hkept hmade

/-! ## Runs -/

theorem decode_rawStatus_reached (timing : Timing) (inputs : List SessionInput)
    (h : (reached timing inputs).state.canFail = true) :
    Status.decode (reached timing inputs).rawStatus = .ok (reached timing inputs).status :=
  (tracks_reached timing inputs).decode_rawStatus h

/-- A request that is gone after some inputs has been taken back by one of them. -/
theorem exists_withdraws {timing : Timing} {inputs later : List SessionInput}
    (hmade : q.isMade (reached timing inputs).command = true)
    (hgone : q.isMade (reached timing (inputs ++ later)).command = false) :
    ∃ before i after, later = before ++ i :: after ∧
      q.isMade (reached timing (inputs ++ before)).command = true ∧
      q.isMade (reached timing (inputs ++ before ++ [i])).command = false ∧
      Withdraws q (reached timing (inputs ++ before)) i := by
  induction later using List.reverseRecOn with
  | nil =>
    rw [List.append_nil, hmade] at hgone
    cases hgone
  | append_singleton later i ih =>
    cases hlater : q.isMade (reached timing (inputs ++ later)).command with
    | false =>
      obtain ⟨before, j, after, rfl, hrest⟩ := ih hlater
      exact ⟨before, j, after ++ [i], by rw [List.append_assoc, List.cons_append], hrest⟩
    | true =>
      rw [← List.append_assoc] at hgone
      refine ⟨later, i, [], rfl, hlater, hgone, ?_⟩
      rw [reached_snoc] at hgone
      have htr := (reached timing (inputs ++ later)).step_transition i
      rcases htr.isMade (decode_rawStatus_reached timing _) hlater with hstays | hwithdraws
      · cases hgone.symm.trans hstays
      · exact hwithdraws

/-- **What becomes of the requests to the covers** after the inputs of a run. -/
structure CoversKept (timing : Timing) (inputs : List SessionInput) : Prop where
  /-- A status that is awaited takes back what it reports as done. -/
  confirmed : (reached timing inputs).state = .awaitStatus → ∀ frame status,
    Status.decode frame = .ok status →
    Confirms (reached timing inputs) status ((reached timing inputs).step (.frame frame))
  /-- Nothing else takes a request back, but a change to the same cover. -/
  withdrawn : ∀ (q : CoverRequest) (later : List SessionInput),
    q.isMade (reached timing inputs).command = true →
    q.isMade (reached timing (inputs ++ later)).command = false →
    ∃ before i after, later = before ++ i :: after ∧
      q.isMade (reached timing (inputs ++ before)).command = true ∧
      q.isMade (reached timing (inputs ++ before ++ [i])).command = false ∧
      Withdraws q (reached timing (inputs ++ before)) i

/-- **A request to a cover stays until it is done**, whatever happens, unless a client changes
it. -/
theorem cover_requests_kept (timing : Timing) (inputs : List SessionInput) :
    CoversKept timing inputs where
  confirmed := fun hs _ _ hf =>
    confirms_step hs (decode_rawStatus_reached timing inputs (by rw [hs]; rfl)) hf
  withdrawn := fun _ _ hmade hgone => exists_withdraws hmade hgone

end DomeLink.Session
