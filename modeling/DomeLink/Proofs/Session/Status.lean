import DomeLink.Proofs.Session.Actions
import DomeLink.Proofs.Status.Fields
import Mathlib.Data.List.Induction

/-!
# The status is that of the latest reply

A session reads the initial status as a whole. From then on it only takes over the fields whose
characters differ from those of the reply before. It keeps that reply, and what it knows of the
status is what that reply says (`Tracks`), so nothing is lost by that:
`status_eq_latest` says that the status is the one that the latest accepted reply is read as.

* `acceptedStatuses`: the replies that were accepted in the course of a run.
* `statusUpdated_mem_step_iff`: a reply is accepted exactly if the session tells its clients so.
-/

namespace DomeLink

/-- What the latest of the replies is read as; before the first there is the default. -/
def Status.latest (frames : List Bytes) : Outcome Status :=
  match frames.getLast? with
  | some frame => decode frame
  | none => .ok {}

theorem Status.latest_snoc (frames : List Bytes) (frame : Bytes) :
    latest (frames ++ [frame]) = decode frame := by
  rw [latest, List.getLast?_concat]

namespace Session

/-- The status reply that the input brings, if the session awaits one and can read it. -/
def acceptedStatus? (s : Session) : SessionInput → Option Bytes
  | .frame bytes =>
    if (s.state = .awaitInitialStatus ∨ s.state = .awaitStatus) ∧ (Status.decode bytes).isOk then
      some bytes
    else none
  | .timer _ | .update _ | .transmitError | .close => none

/-- The status replies that the session accepts in the course of the inputs. -/
def acceptedStatuses (s : Session) : List SessionInput → List Bytes
  | [] => []
  | i :: is => (s.acceptedStatus? i).toList ++ (s.step i).1.acceptedStatuses is

theorem acceptedStatuses_append (s : Session) (is js : List SessionInput) :
    s.acceptedStatuses (is ++ js) = s.acceptedStatuses is ++ (s.run is).acceptedStatuses js := by
  induction is generalizing s with
  | nil => rfl
  | cons i is ih => simp [acceptedStatuses, run_cons, ih]

theorem acceptedStatuses_snoc (timing : Timing) (inputs : List SessionInput) (i : SessionInput) :
    (opened timing).1.acceptedStatuses (inputs ++ [i]) =
      (opened timing).1.acceptedStatuses inputs ++
        ((reached timing inputs).acceptedStatus? i).toList := by
  rw [acceptedStatuses_append, acceptedStatuses, acceptedStatuses, List.append_nil, reached]

variable {s t : Session} {i : SessionInput} {frame : Bytes} {status : Status} {r : Step}
  {frames : List Bytes}

/-! ## What is accepted -/

theorem acceptedStatus?_of_ok (h : s.state = .awaitInitialStatus ∨ s.state = .awaitStatus)
    (hf : Status.decode frame = .ok status) : s.acceptedStatus? (.frame frame) = some frame := by
  rw [acceptedStatus?, if_pos ⟨h, by rw [hf]; rfl⟩]

theorem acceptedStatus?_of_error {e : Fault} (hf : Status.decode frame = .error e) :
    s.acceptedStatus? (.frame frame) = none := by
  rw [acceptedStatus?, if_neg]
  rintro ⟨-, hok⟩
  rw [hf] at hok
  cases hok

theorem acceptedStatus?_of_awaitCommandAck (h : s.state = .awaitCommandAck) :
    s.acceptedStatus? (.frame frame) = none := by
  rw [acceptedStatus?, if_neg]
  rintro ⟨hs | hs, -⟩ <;> cases h.symm.trans hs

/-- An accepted reply ends the exchange. -/
theorem acceptedStatus?_of_not_endsExchange (h : s.endsExchange i = false) :
    s.acceptedStatus? i = none := by
  cases i with
  | frame bytes =>
    rw [acceptedStatus?, if_neg]
    rintro ⟨hs | hs, hok⟩
    all_goals simp [endsExchange, hs, hok, SessionState.canFail] at h
  | _ => rfl

/-! ## What the clients are told -/

theorem Routine.statusUpdated_not_mem {timing : Timing} {actions : List Action}
    (h : Routine timing actions) : .notify .statusUpdated ∉ actions :=
  fun hmem => nomatch h _ hmem

theorem statusUpdated_mem_onFrame_iff (s : Session) (frame : Bytes) :
    .notify .statusUpdated ∈ (s.onFrame frame).2 ↔
      (s.acceptedStatus? (.frame frame)).isSome = true := by
  unfold onFrame
  split
  · rename_i hs
    unfold initialStatus
    split
    · rename_i e he
      simp [acceptedStatus?_of_error he]
    · rename_i status hf
      simp [acceptedStatus?_of_ok (.inl hs) hf]
  · rename_i hs
    unfold statusReply Status.applyChanges
    cases hf : Status.decode frame with
    | error e =>
      simpa [acceptedStatus?_of_error hf] using (routine_failExchange s).statusUpdated_not_mem
    | ok status =>
      refine iff_of_true ?_ (by rw [acceptedStatus?_of_ok (.inr hs) hf]; rfl)
      simp
  · rename_i hs
    refine iff_of_false (routine_commandAck s frame).statusUpdated_not_mem ?_
    rw [acceptedStatus?_of_awaitCommandAck hs]
    exact nofun
  all_goals
    rename_i hs
    simp [acceptedStatus?, hs]

/-- **A reply is accepted** exactly if the clients are told that the status has been taken over. -/
theorem statusUpdated_mem_step_iff (s : Session) (i : SessionInput) :
    .notify .statusUpdated ∈ (s.step i).2 ↔ (s.acceptedStatus? i).isSome = true := by
  cases i with
  | frame bytes => exact statusUpdated_mem_onFrame_iff s bytes
  | timer | update | transmitError | close =>
    refine iff_of_false (routine_step_of_not_frame s ?_).statusUpdated_not_mem nofun
    rintro _ ⟨⟩

/-! ## The status and the latest reply -/

/-- **The status is that of the latest reply**, which the session keeps. As long as it is not
closed, it waits for the initial status exactly until the first reply is accepted. -/
structure Tracks (s : Session) (frames : List Bytes) : Prop where
  latest : Status.latest frames = .ok s.status
  kept : frames ≠ [] → frames.getLast? = some s.rawStatus
  first : s.state ≠ .closed → (s.state = .awaitInitialStatus ↔ frames = [])

theorem tracks_opened (timing : Timing) : (opened timing).1.Tracks [] where
  latest := rfl
  kept := fun h => absurd rfl h
  first := fun _ => iff_of_true rfl rfl

/-- What neither brings a reply nor ends the wait for the first one changes nothing. -/
theorem Tracks.congr (h : s.Tracks frames) (hstatus : t.status = s.status)
    (hraw : t.rawStatus = s.rawStatus)
    (hstate : t.state ≠ .closed →
      s.state ≠ .closed ∧ (t.state = .awaitInitialStatus ↔ s.state = .awaitInitialStatus)) :
    t.Tracks frames where
  latest := by rw [hstatus, h.latest]
  kept := by rw [hraw]; exact h.kept
  first := fun ht => (hstate ht).2.trans (h.first (hstate ht).1)

theorem tracks_snoc (hstatus : Status.decode frame = .ok t.status) (hraw : t.rawStatus = frame)
    (hstate : t.state ≠ .awaitInitialStatus) (frames : List Bytes) :
    t.Tracks (frames ++ [frame]) where
  latest := by rw [Status.latest_snoc, hstatus]
  kept := fun _ => by rw [List.getLast?_concat, hraw]
  first := fun _ => iff_of_false hstate (by simp)

/-- A later reply is awaited, or the acknowledgement of a command. -/
theorem ne_of_canFail (h : s.state.canFail = true) :
    s.state ≠ .closed ∧ s.state ≠ .awaitInitialStatus := by
  constructor <;>
  · intro hs
    rw [hs] at h
    cases h

/-- While later replies are awaited, the reply that is kept is read as the status. -/
theorem Tracks.decode_rawStatus (h : s.Tracks frames) (hs : s.state.canFail = true) :
    Status.decode s.rawStatus = .ok s.status := by
  obtain ⟨hclosed, hinitial⟩ := ne_of_canFail hs
  have hlatest := h.latest
  rw [Status.latest, h.kept fun hnil => hinitial ((h.first hclosed).2 hnil)] at hlatest
  exact hlatest

theorem status_resolve (s : Session) : s.resolve.1.status = s.status := by
  unfold resolve
  split <;> rfl

theorem rawStatus_resolve (s : Session) : s.resolve.1.rawStatus = s.rawStatus := by
  unfold resolve
  split <;> rfl

theorem state_resolve_ne (s : Session) : s.resolve.1.state ≠ .awaitInitialStatus := by
  unfold resolve
  split <;> exact nofun

theorem tracks_resolve (hstatus : Status.decode frame = .ok t.status) (hraw : t.rawStatus = frame)
    (frames : List Bytes) : t.resolve.1.Tracks (frames ++ [frame]) :=
  tracks_snoc (by rw [status_resolve, hstatus]) (by rw [rawStatus_resolve, hraw])
    (state_resolve_ne t) frames

/-- The end of an exchange leaves the status to the reply, if that brings one. -/
theorem Settles.tracks (ht : s.Settles i t) (h : s.Tracks frames) :
    t.resolve.1.Tracks (frames ++ (s.acceptedStatus? i).toList) := by
  have hquiet (hs : s.state.canFail = true) (hi : s.acceptedStatus? i = none)
      (hstatus : t.status = s.status) (hraw : t.rawStatus = s.rawStatus) :
      t.resolve.1.Tracks (frames ++ (s.acceptedStatus? i).toList) := by
    rw [hi, Option.toList_none, List.append_nil]
    refine h.congr (by rw [status_resolve, hstatus]) (by rw [rawStatus_resolve, hraw]) fun _ => ?_
    exact ⟨(ne_of_canFail hs).1, iff_of_false (state_resolve_ne t) (ne_of_canFail hs).2⟩
  cases ht with
  | seeded hs hf =>
    rw [acceptedStatus?_of_ok (.inl hs) hf]
    exact tracks_resolve hf rfl frames
  | refreshed hs hf =>
    rw [Status.applyChanges_eq_decode (h.decode_rawStatus (by rw [hs]; rfl))] at hf
    obtain ⟨fresh, hfresh, heq⟩ := map_eq_ok.1 hf
    cases heq
    rw [acceptedStatus?_of_ok (.inr hs) hfresh]
    exact tracks_resolve hfresh rfl frames
  | @badStatus frame e hs hf =>
    have hcan : s.state.canFail = true := by rw [hs]; rfl
    rw [Status.applyChanges_eq_decode (h.decode_rawStatus hcan)] at hf
    cases hd : Status.decode frame with
    | ok fresh =>
      rw [hd] at hf
      cases hf
    | error e => exact hquiet hcan (acceptedStatus?_of_error hd) rfl rfl
  | acknowledged hs | badAck hs =>
    exact hquiet (by rw [hs]; rfl) (acceptedStatus?_of_awaitCommandAck hs) rfl rfl
  | timeout hs | transmitError hs => exact hquiet hs rfl rfl rfl

/-- **Every step leaves the status to the latest reply.** -/
theorem Transition.tracks (htr : Transition s i r) (h : s.Tracks frames) :
    r.1.Tracks (frames ++ (s.acceptedStatus? i).toList) := by
  cases htr with
  | finish ht => exact ht.tracks h
  | ignore hends =>
    rw [acceptedStatus?_of_not_endsExchange hends, Option.toList_none, List.append_nil]
    exact h
  | retry hs | poll hs | beat hs | update _ hs | updateClosed _ hs =>
    rw [acceptedStatus?, Option.toList_none, List.append_nil]
    refine h.congr rfl rfl fun hclosed => ?_
    simp_all [requestStatus, sendCommand]
  | pollLater | beatLater hs | updateLater _ hs =>
    rw [acceptedStatus?, Option.toList_none, List.append_nil]
    exact h.congr rfl rfl fun hclosed => ⟨hclosed, Iff.rfl⟩
  | close =>
    rw [acceptedStatus?, Option.toList_none, List.append_nil]
    exact h.congr rfl rfl fun hclosed => absurd rfl hclosed

theorem tracks_reached (timing : Timing) (inputs : List SessionInput) :
    (reached timing inputs).Tracks ((opened timing).1.acceptedStatuses inputs) := by
  induction inputs using List.reverseRecOn with
  | nil => exact tracks_opened timing
  | append_singleton is i ih =>
    rw [acceptedStatuses_snoc, reached_snoc]
    exact ((reached timing is).step_transition i).tracks ih

/-- **The status is that of the latest accepted reply**, and the default before the first. Only a
reply that is accepted changes it. -/
theorem status_eq_latest (timing : Timing) (inputs : List SessionInput) :
    Status.latest ((opened timing).1.acceptedStatuses inputs) =
        .ok (reached timing inputs).status ∧
      ∀ i, match (reached timing inputs).acceptedStatus? i with
        | some frame => Status.decode frame = .ok ((reached timing inputs).step i).1.status
        | none => ((reached timing inputs).step i).1.status = (reached timing inputs).status := by
  have h := tracks_reached timing inputs
  refine ⟨h.latest, fun i => ?_⟩
  have hstep := (((reached timing inputs).step_transition i).tracks h).latest
  cases hi : (reached timing inputs).acceptedStatus? i with
  | none =>
    rw [hi, Option.toList_none, List.append_nil, h.latest] at hstep
    exact (Except.ok.inj hstep).symm
  | some frame =>
    rw [hi, Option.toList_some, Status.latest_snoc] at hstep
    exact hstep

end Session

end DomeLink
