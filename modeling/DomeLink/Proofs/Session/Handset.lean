import DomeLink.Proofs.Session.Delivery
import DomeLink.Proofs.Session.Comms
import DomeLink.Proofs.Session.Rejection
import DomeLink.Proofs.Session.Status

/-!
# The handset is followed

A session tells of the handset while it reads later statuses, and at no other time. What it tells
starts at the byte of the initial status and goes on from byte to byte up to the present one
(`Leads`), so no change of the byte is lost.

It compares the characters of the field, not the byte. Where the controller writes the byte in
capitals (`Status.WritesHandset`) that is the same. A byte that is written with other letters than
before is told of too, as a change from itself to itself, which keeps the chain.

* `Tracks.events_step`: what is told as a later status is taken over.
* `handset_followed`: what is told in every run, and with every input.
-/

namespace DomeLink

namespace Action

/-- What an event tells of the handset: the byte before and the byte now. -/
def handset? : SessionEvent → Option (UInt8 × UInt8)
  | .handsetChanged old new => some (old, new)
  | _ => none

/-- What the actions tell of the handset, in order. -/
def handsets (actions : List Action) : List (UInt8 × UInt8) := (events actions).filterMap handset?

@[simp] theorem handsets_append (as bs : List Action) :
    handsets (as ++ bs) = handsets as ++ handsets bs := by
  rw [handsets, events_append, List.filterMap_append]
  rfl

end Action

namespace Status

variable {frame previous : Bytes} {old new : Status}

/-- The handset byte stands in the frame as a controller writes it, with letters in capitals. -/
def WritesHandset (frame : Bytes) (s : Status) : Prop :=
  StatusField.handset.raw? frame = some (Digits.writeHex 2 s.handset.toUInt32)

/-- Between replies in which its characters are the same the byte is the same. -/
theorem handset_eq_of_not_mem (hprevious : decode previous = .ok old)
    (hframe : decode frame = .ok new) (h : .handset ∉ changedFields previous frame) :
    old.handset = new.handset := by
  have hraw := Decidable.not_not.1 (mt mem_changedFields.2 h)
  have hsame : StatusField.SameAt previous frame .handset :=
    StatusField.sameAt_of_raw? (fieldsEnd_le_of_decode hprevious) hraw
  have hold : byteAt previous .handset = .ok old.handset :=
    (decode_eq_ok_iff.1 hprevious).2 .handset
  have hnew : byteAt frame .handset = .ok new.handset := (decode_eq_ok_iff.1 hframe).2 .handset
  rw [byteAt_congr hsame, hnew] at hold
  exact (Except.ok.inj hold).symm

/-- The characters of a byte that is written in capitals change with the byte alone. -/
theorem mem_changedFields_handset_iff (hprevious : WritesHandset previous old)
    (hframe : WritesHandset frame new) (hdecode : decode previous = .ok old)
    (hdecode' : decode frame = .ok new) :
    .handset ∈ changedFields previous frame ↔ old.handset ≠ new.handset := by
  constructor
  · intro hmem heq
    rw [WritesHandset, heq] at hprevious
    exact mem_changedFields.1 hmem (hprevious.trans hframe.symm)
  · intro hne
    exact Decidable.byContradiction fun hmem => hne (handset_eq_of_not_mem hdecode hdecode' hmem)

end Status

/-- **Bytes that are told one after the other**: each pair starts where the one before ends, the
first at `first`, and the last one ends at `last`. -/
def Leads (first : UInt8) : List (UInt8 × UInt8) → UInt8 → Prop
  | [], last => first = last
  | (old, new) :: told, last => old = first ∧ Leads new told last

theorem Leads.append {first middle last : UInt8} {told more : List (UInt8 × UInt8)}
    (h : Leads first told middle) (hmore : Leads middle more last) :
    Leads first (told ++ more) last := by
  induction told generalizing first with
  | nil =>
    cases h
    exact hmore
  | cons pair told ih => exact ⟨h.1, ih h.2⟩

namespace Session

open DomeLink.Action (events handsets)

variable {s t : Session} {i : SessionInput} {frame previous : Bytes} {old new : Status}
  {frames : List Bytes} {timing : Timing} {inputs : List SessionInput}

/-! ## Where nothing is told of the handset -/

theorem events_resolve (s : Session) : events s.resolve.2 = [] := by
  unfold resolve
  split <;> rfl

theorem handsets_failExchange (s : Session) : handsets s.failExchange.2 = [] := by
  have hedge : handsets (s.commsEdge false) = [] := by
    unfold commsEdge
    split <;> rfl
  have hresolve : handsets s.failed.resolve.2 = [] := congrArg _ (events_resolve s.failed)
  rw [failExchange_eq, Action.handsets_append, hresolve, List.append_nil]
  exact hedge

theorem handsets_commandAck (s : Session) (frame : Bytes) :
    handsets (s.commandAck frame).2 = [] := by
  have hedge : handsets (s.commsEdge true) = [] := by
    unfold commsEdge
    split <;> rfl
  unfold commandAck
  split
  · exact handsets_failExchange s
  · show handsets ((.cancel .response :: s.commsEdge true) ++
      s.arm .heartbeat :: s.acknowledged.resolve.2) = []
    rw [Action.handsets_append]
    exact List.append_eq_nil_iff.2 ⟨hedge, congrArg _ (events_resolve s.acknowledged)⟩

theorem handsets_initialStatus (s : Session) (frame : Bytes) :
    handsets (s.initialStatus frame).2 = [] := by
  unfold initialStatus
  split <;> rfl

theorem handsets_issueCommand (s : Session) : handsets s.issueCommand.2 = [] := by
  unfold issueCommand
  split <;> rfl

theorem handsets_onTimer (s : Session) (timer : Timer) : handsets (s.onTimer timer).2 = [] := by
  unfold onTimer
  split
  · rfl
  · cases timer with
    | response =>
      show handsets s.onResponseTimeout.2 = []
      unfold onResponseTimeout
      split
      · rfl
      · exact handsets_failExchange s
      · exact handsets_failExchange s
      all_goals rfl
    | statusPoll =>
      show handsets s.onStatusPoll.2 = []
      unfold onStatusPoll
      split <;> rfl
    | heartbeat => exact handsets_issueCommand s

/-- Only frames tell of the handset. -/
theorem handsets_step_of_not_frame (s : Session) (h : ∀ frame, i ≠ .frame frame) :
    handsets (s.step i).2 = [] := by
  cases i with
  | frame frame => exact absurd rfl (h frame)
  | timer timer => exact handsets_onTimer s timer
  | update changes =>
    cases hc : s.command.changeAll changes with
    | error e =>
      rw [step_update_of_error hc]
      rfl
    | ok command =>
      rw [step_update_of_ok hc]
      exact handsets_issueCommand { s with command }
  | transmitError =>
    show handsets s.onTransmitError.2 = []
    unfold onTransmitError
    split
    · exact handsets_failExchange s
    · exact handsets_failExchange s
    all_goals rfl
  | close =>
    show handsets s.close.2 = []
    unfold close
    split <;> rfl

/-- **The handset is told of only while a later status is awaited.** -/
theorem handsets_step_of_ne (hs : s.state ≠ .awaitStatus) (i : SessionInput) :
    handsets (s.step i).2 = [] := by
  cases i with
  | frame frame =>
    show handsets (s.onFrame frame).2 = []
    unfold onFrame
    split
    · exact handsets_initialStatus s frame
    · exact absurd ‹_› hs
    · exact handsets_commandAck s frame
    all_goals rfl
  | _ => exact handsets_step_of_not_frame s (by rintro _ ⟨⟩)

/-- A frame that is no status tells nothing of it. -/
theorem handsets_step_of_error {e : Fault} (hs : s.state = .awaitStatus)
    (hf : Status.decode frame = .error e) : handsets (s.step (.frame frame)).2 = [] := by
  rw [step_frame_of_not_status hs hf]
  exact handsets_failExchange s

/-! ## Later statuses -/

/-- **What is told as a later status is taken over**: of the handset where its characters differ
from those of the reply before, and then of the status. -/
theorem Tracks.events_step (h : s.Tracks frames) (hs : s.state = .awaitStatus)
    (hf : Status.decode frame = .ok new) :
    (s.step (.frame frame)).1.status = new ∧
      events (s.step (.frame frame)).2 =
        events (handsetEdge (Status.changedFields s.rawStatus frame) s.status.handset
          new.handset) ++ [.statusUpdated] := by
  have hkept := h.decode_rawStatus (by rw [hs]; rfl)
  have hchanges : s.status.applyChanges s.rawStatus frame =
      .ok (new, Status.changedFields s.rawStatus frame) := by
    rw [Status.applyChanges_eq_decode hkept, hf]
    rfl
  simp only [step, onFrame, hs, statusReply, hchanges]
  refine ⟨status_resolve _, ?_⟩
  rw [Action.events_append, events_resolve, List.append_nil, List.cons_append]
  exact Action.events_append _ _

theorem handsets_handsetEdge (changed : List StatusField) (a b : UInt8) :
    handsets (handsetEdge changed a b) = if .handset ∈ changed then [(a, b)] else [] := by
  unfold handsetEdge
  split <;> rfl

theorem Tracks.handsets_step (h : s.Tracks frames) (hs : s.state = .awaitStatus)
    (hf : Status.decode frame = .ok new) :
    handsets (s.step (.frame frame)).2 =
      if .handset ∈ Status.changedFields s.rawStatus frame then
        [(s.status.handset, new.handset)] else [] := by
  rw [handsets, (h.events_step hs hf).2, List.filterMap_append, ← handsets_handsetEdge]
  exact List.append_nil _

/-- What a later input tells leads from the byte before it to the byte after it. -/
theorem Tracks.leads_step (h : s.Tracks frames) (hs : s.state ≠ .awaitInitialStatus)
    (i : SessionInput) :
    Leads s.status.handset (handsets (s.step i).2) (s.step i).1.status.handset := by
  have hafter := ((s.step_transition i).tracks h).latest
  have hquiet (hi : s.acceptedStatus? i = none) (htold : handsets (s.step i).2 = []) :
      Leads s.status.handset (handsets (s.step i).2) (s.step i).1.status.handset := by
    rw [hi, Option.toList_none, List.append_nil, h.latest] at hafter
    rw [htold, ← Except.ok.inj hafter]
    exact rfl
  by_cases hawaits : s.state = .awaitStatus
  · cases i with
    | frame frame =>
      cases hf : Status.decode frame with
      | error e => exact hquiet (acceptedStatus?_of_error hf) (handsets_step_of_error hawaits hf)
      | ok new =>
        rw [h.handsets_step hawaits hf, (h.events_step hawaits hf).1]
        split
        · exact ⟨rfl, rfl⟩
        · rename_i hmem
          exact Status.handset_eq_of_not_mem (h.decode_rawStatus (by rw [hawaits]; rfl)) hf hmem
    | _ => exact hquiet rfl (handsets_step_of_not_frame s (by rintro _ ⟨⟩))
  · refine hquiet ?_ (handsets_step_of_ne hawaits i)
    cases i with
    | frame frame =>
      rw [acceptedStatus?, if_neg]
      rintro ⟨hstate | hstate, -⟩
      · exact hs hstate
      · exact hawaits hstate
    | _ => rfl

/-! ## Whole runs -/

/-- Nothing is told of the handset before the first reply, which itself tells nothing. -/
theorem Tracks.handsets_step_of_nil (h : s.Tracks []) (i : SessionInput) :
    handsets (s.step i).2 = [] := by
  refine handsets_step_of_ne (fun hs => ?_) i
  have hinitial := (h.first (by rw [hs]; nofun)).2 rfl
  cases hs.symm.trans hinitial

/-- **All that a run tells of the handset**: it leads from the byte of the first reply to the
present one, and before the first reply there is nothing. -/
structure HandsetChain (timing : Timing) (inputs : List SessionInput) : Prop where
  none : (opened timing).1.acceptedStatuses inputs = [] → handsets (transcript timing inputs) = []
  chain : ∀ first initial, ((opened timing).1.acceptedStatuses inputs).head? = some first →
    Status.decode first = .ok initial →
    Leads initial.handset (handsets (transcript timing inputs))
      (reached timing inputs).status.handset

theorem handsetChain_transcript (timing : Timing) (inputs : List SessionInput) :
    HandsetChain timing inputs := by
  induction inputs using List.reverseRecOn with
  | nil =>
    refine ⟨fun _ => rfl, fun first initial hfirst => ?_⟩
    cases hfirst
  | append_singleton inputs i ih =>
    have htracks := tracks_reached timing inputs
    have hafter := (((reached timing inputs).step_transition i).tracks htracks).latest
    have haccepted := acceptedStatuses_snoc timing inputs i
    have htold : handsets (transcript timing (inputs ++ [i])) =
        handsets (transcript timing inputs) ++ handsets ((reached timing inputs).step i).2 := by
      rw [transcript_snoc, Action.handsets_append]
    cases hframes : (opened timing).1.acceptedStatuses inputs with
    | nil =>
      rw [hframes] at htracks hafter haccepted
      have hnil : handsets (transcript timing (inputs ++ [i])) = [] := by
        rw [htold, ih.none hframes, htracks.handsets_step_of_nil, List.append_nil]
      refine ⟨fun _ => hnil, fun first initial hfirst hinitial => ?_⟩
      -- the first reply comes in with this input, so the present status is what it says
      rw [haccepted, List.nil_append] at hfirst
      cases hi : (reached timing inputs).acceptedStatus? i with
      | none =>
        rw [hi] at hfirst
        cases hfirst
      | some frame =>
        rw [hi] at hfirst hafter
        cases hfirst
        rw [Option.toList_some, Status.latest_snoc, hinitial] at hafter
        rw [hnil, reached_snoc, Except.ok.inj hafter]
        exact rfl
    | cons first rest =>
      refine ⟨fun hnil => ?_, fun first' initial hfirst hinitial => ?_⟩
      · rw [haccepted, hframes] at hnil
        cases hnil
      · rw [haccepted, hframes] at hfirst
        have hbefore := ih.chain first' initial (by rw [hframes]; exact hfirst) hinitial
        rw [htold, reached_snoc]
        by_cases hinitially : (reached timing inputs).state = .awaitInitialStatus
        · have hnil := (htracks.first (by rw [hinitially]; rintro ⟨⟩)).1 hinitially
          rw [hframes] at hnil
          cases hnil
        · exact hbefore.append (htracks.leads_step hinitially i)

/-- **The news of the handset**, after the inputs of a run and with one more input. -/
structure HandsetNews (timing : Timing) (inputs : List SessionInput) : Prop where
  /-- The opening tells nothing of it. -/
  opening : handsets (opened timing).2 = []
  /-- A later status with another byte than the status before is told of, both bytes and before the
  status itself. -/
  told : ∀ previous old frame new, (reached timing inputs).state = .awaitStatus →
    ((opened timing).1.acceptedStatuses inputs).getLast? = some previous →
    Status.decode previous = .ok old → Status.decode frame = .ok new →
    old.handset ≠ new.handset →
    events ((reached timing inputs).step (.frame frame)).2 =
      [.handsetChanged old.handset new.handset, .statusUpdated]
  /-- One input brings one change at most. -/
  single : ∀ i, (handsets ((reached timing inputs).step i).2).length ≤ 1
  /-- Nothing else brings one: only a later status that writes the byte in another way than the
  status before, so with another byte if both write it in capitals. -/
  only : ∀ i, handsets ((reached timing inputs).step i).2 ≠ [] →
    (reached timing inputs).state = .awaitStatus ∧ ∃ previous old frame new, i = .frame frame ∧
      ((opened timing).1.acceptedStatuses inputs).getLast? = some previous ∧
      Status.decode previous = .ok old ∧ Status.decode frame = .ok new ∧
      StatusField.handset.raw? previous ≠ StatusField.handset.raw? frame ∧
      (Status.WritesHandset previous old → Status.WritesHandset frame new →
        old.handset ≠ new.handset)
  /-- From the first reply on the changes lead from its byte to the present one. -/
  chain : HandsetChain timing inputs

/-- While a later status is awaited the latest reply is kept, and it is what is known. -/
theorem Tracks.latest_of_awaitStatus (h : s.Tracks frames) (hs : s.state = .awaitStatus) :
    frames.getLast? = some s.rawStatus ∧ Status.decode s.rawStatus = .ok s.status := by
  refine ⟨h.kept fun hnil => ?_, h.decode_rawStatus (by rw [hs]; rfl)⟩
  have hinitial := (h.first (by rw [hs]; nofun)).2 hnil
  cases hs.symm.trans hinitial

theorem Tracks.length_handsets_step (h : s.Tracks frames) (i : SessionInput) :
    (handsets (s.step i).2).length ≤ 1 := by
  by_cases hs : s.state = .awaitStatus
  · cases i with
    | frame frame =>
      cases hf : Status.decode frame with
      | error e =>
        rw [handsets_step_of_error hs hf]
        exact Nat.zero_le 1
      | ok new =>
        rw [h.handsets_step hs hf]
        split
        · exact Nat.le_refl 1
        · exact Nat.zero_le 1
    | _ =>
      rw [handsets_step_of_not_frame s (by rintro _ ⟨⟩)]
      exact Nat.zero_le 1
  · rw [handsets_step_of_ne hs]
    exact Nat.zero_le 1

/-- What tells of the handset is a later status in which its characters have changed. -/
theorem Tracks.exists_of_handsets_step (h : s.Tracks frames) (hi : handsets (s.step i).2 ≠ []) :
    s.state = .awaitStatus ∧ ∃ frame new, i = .frame frame ∧ Status.decode frame = .ok new ∧
      .handset ∈ Status.changedFields s.rawStatus frame := by
  have hs : s.state = .awaitStatus :=
    Decidable.byContradiction fun hs => hi (handsets_step_of_ne hs i)
  refine ⟨hs, ?_⟩
  cases i with
  | frame frame =>
    cases hf : Status.decode frame with
    | error e => exact absurd (handsets_step_of_error hs hf) hi
    | ok new =>
      refine ⟨frame, new, rfl, hf, Decidable.byContradiction fun hmem => hi ?_⟩
      rw [h.handsets_step hs hf, if_neg hmem]
  | _ => exact absurd (handsets_step_of_not_frame s (by rintro _ ⟨⟩)) hi

/-- **No change of the handset is lost**, whatever happens, and none is made up where the byte is
written in capitals. -/
theorem handset_followed (timing : Timing) (inputs : List SessionInput) :
    HandsetNews timing inputs := by
  have h := tracks_reached timing inputs
  constructor
  case opening => rfl
  case told =>
    intro previous old frame new hs hprevious hold hnew hne
    obtain ⟨hlatest, hkept⟩ := h.latest_of_awaitStatus hs
    cases hprevious.symm.trans hlatest
    cases hold.symm.trans hkept
    have hmem : .handset ∈ Status.changedFields (reached timing inputs).rawStatus frame :=
      Decidable.byContradiction fun hmem => hne (Status.handset_eq_of_not_mem hkept hnew hmem)
    rw [(h.events_step hs hnew).2, handsetEdge, if_pos hmem]
    rfl
  case single => exact h.length_handsets_step
  case only =>
    intro i hi
    obtain ⟨hs, frame, new, rfl, hnew, hmem⟩ := h.exists_of_handsets_step hi
    obtain ⟨hlatest, hkept⟩ := h.latest_of_awaitStatus hs
    refine ⟨hs, _, _, frame, new, rfl, hlatest, hkept, hnew, Status.mem_changedFields.1 hmem,
      fun hwrites hwrites' => ?_⟩
    exact (Status.mem_changedFields_handset_iff hwrites hwrites' hkept hnew).1 hmem
  case chain => exact handsetChain_transcript timing inputs

/-- A run that awaits a later status, the handset byte of the first one being `0A`. -/
def polledRun : List SessionInput :=
  [.frame ({ handset := 0x0A } : Status).encode, .frame (Frame.commandAck 0), .timer .statusPoll]

/-- A button is pressed between two polls. -/
theorem handset_followed_of_press :
    (reached {} polledRun).state = .awaitStatus ∧
      events ((reached {} polledRun).step (.frame ({ handset := 0x0B } : Status).encode)).2 =
        [.handsetChanged 0x0A 0x0B, .statusUpdated] := by
  have hawaits : (reached {} polledRun).state = .awaitStatus := by decide +kernel
  have hlatest : ((opened {}).1.acceptedStatuses polledRun).getLast? =
      some ({ handset := 0x0A } : Status).encode := by decide +kernel
  refine ⟨hawaits, (handset_followed {} polledRun).told _ { handset := 0x0A } _
    { handset := 0x0B } hawaits hlatest ?_ ?_ ?_⟩
  · decide +kernel
  · decide +kernel
  · decide

end Session

end DomeLink
