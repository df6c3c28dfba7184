import DomeLink.Capture
import DomeLink.Proofs.Wire.Field
import DomeLink.Proofs.Wire.Verify

/-!
# What the frames of a capture are taken for

A capture tells the frames apart by their headers and their lengths before it checks them. For
requests and commands this makes no difference: they are recognized exactly if they pass their
checks. The checks of replies accept more than a capture recognizes: a status reply that reports a
failure in its end code, and an acknowledgement that is as long as a command (`classify_eq_iff`).
-/

namespace DomeLink

open DomeLink.Frame (statusHeader commandHeader checkReply checkRequest)

namespace Capture

variable {frame : Bytes} {r : CaptureRecord} {s : Status} {c : Command}

/-- The frame is what the record tells of it, as the checks of the line have it, and nothing that a
capture passes over. -/
def Recognized (frame : Bytes) : CaptureRecord → Prop
  | .status s => Status.decode frame = .ok s ∧ statusHeader ++ Status.successCode <+: frame
  | .command c => Command.decode frame = .ok c
  | .ack => checkReply .commandAck frame = .ok () ∧ frame.length ≤ shortLength
  | .statusRequest => checkRequest frame = .ok .status
  | .rejected _ _ => False

/-! ## Headers and lengths -/

theorem commandHeader_of_ack (h : checkReply .commandAck frame = .ok ()) :
    commandHeader <+: frame :=
  (Frame.checkReply_eq_ok_iff.1 h).2.2.1.trans frame.withoutCr_prefix

theorem checkReply_of_decode (h : Status.decode frame = .ok s) :
    checkReply .status frame = .ok () :=
  (check_bind_eq_ok.1 h).1

theorem long_of_status (h : Status.decode frame = .ok s) : shortLength < frame.length := by
  have hlen := (Frame.checkReply_status_iff.1 (checkReply_of_decode h)).1
  have hle := frame.withoutCr_prefix.length_le
  rw [shortLength]
  omega

theorem checkCommand_of_decode (h : Command.decode frame = .ok c) :
    Frame.checkCommand frame = .ok () :=
  (check_bind_eq_ok.1 h).1

theorem commandHeader_of_command (h : Command.decode frame = .ok c) : commandHeader <+: frame :=
  (Frame.commandHeader_of_checkCommand (checkCommand_of_decode h)).trans frame.withoutCr_prefix

theorem long_of_command (h : Command.decode frame = .ok c) : shortLength < frame.length := by
  have hlen := (Frame.checkCommand_eq_ok_iff.1 (checkCommand_of_decode h)).1
  have hle := frame.withoutCr_prefix.length_le
  rw [shortLength]
  omega

theorem statusHeader_of_request (h : checkRequest frame = .ok .status) : statusHeader <+: frame :=
  (Frame.checkRequest_eq_status_iff.1 h).2.1.trans frame.withoutCr_prefix

theorem short_of_request (h : checkRequest frame = .ok .status) : frame.length ≤ shortLength := by
  have hlen := (Frame.checkRequest_eq_status_iff.1 h).1
  have hle := frame.length_le_withoutCr
  rw [shortLength]
  omega

/-- A request that starts like a status request is one. -/
theorem request_eq_status {kind : Frame.RequestKind} (hheader : statusHeader <+: frame)
    (h : checkRequest frame = .ok kind) : kind = .status := by
  cases kind with
  | status => rfl
  | command =>
    have hcommand := Frame.commandHeader_of_checkCommand (Frame.checkRequest_eq_command_iff.1 h)
    exact absurd hheader
      (Frame.not_statusHeader_of_commandHeader (hcommand.trans frame.withoutCr_prefix))

/-! ## Recognizing -/

theorem recordOf_recognized_or_rejected {α : Type} {record : α → CaptureRecord} {x : Outcome α}
    (h : ∀ a, x = .ok a → Recognized frame (record a)) :
    Recognized frame (recordOf frame record x) ∨
      ∃ fault, recordOf frame record x = .rejected frame fault := by
  cases x with
  | ok a => exact .inl (h a rfl)
  | error fault => exact .inr ⟨fault, rfl⟩

/-- What is not recognized is rejected. -/
theorem recognized_or_rejected (frame : Bytes) :
    Recognized frame (classify frame) ∨ ∃ fault, classify frame = .rejected frame fault := by
  rw [classify]
  simp only [Bool.and_eq_true, List.isPrefixOf_iff_prefix, decide_eq_true_eq]
  split
  case isTrue hstatus =>
    exact recordOf_recognized_or_rejected fun s hs => ⟨hs, hstatus.1⟩
  split
  case isTrue hheader =>
    refine recordOf_recognized_or_rejected fun kind hkind => ?_
    rw [request_eq_status hheader hkind] at hkind
    exact hkind
  split
  case isTrue hcommand => exact recordOf_recognized_or_rejected fun c hc => hc
  case isFalse hshort =>
    refine recordOf_recognized_or_rejected fun _ hack => ⟨hack, Nat.le_of_not_lt fun hlong => ?_⟩
    exact hshort ⟨commandHeader_of_ack hack, hlong⟩

/-- What is recognized is told. -/
theorem classify_of_recognized (h : Recognized frame r) : classify frame = r := by
  rw [classify]
  simp only [Bool.and_eq_true, List.isPrefixOf_iff_prefix, decide_eq_true_eq]
  cases r with
  | status s =>
    obtain ⟨hs, hheader⟩ := h
    rw [if_pos ⟨hheader, long_of_status hs⟩, hs]
    rfl
  | statusRequest =>
    have h : checkRequest frame = .ok .status := h
    rw [if_neg fun hstatus => Nat.not_lt.2 (short_of_request h) hstatus.2,
      if_pos (statusHeader_of_request h), h]
    rfl
  | command c =>
    have h : Command.decode frame = .ok c := h
    have hheader := commandHeader_of_command h
    have hstatus := Frame.not_statusHeader_of_commandHeader hheader
    rw [if_neg fun hs => hstatus ((List.prefix_append _ _).trans hs.1), if_neg hstatus,
      if_pos ⟨hheader, long_of_command h⟩, h]
    rfl
  | ack =>
    obtain ⟨hack, hshort⟩ := h
    have hstatus := Frame.not_statusHeader_of_commandHeader (commandHeader_of_ack hack)
    rw [if_neg fun hs => hstatus ((List.prefix_append _ _).trans hs.1), if_neg hstatus,
      if_neg fun hcommand => Nat.not_lt.2 hshort hcommand.2, hack]
    rfl
  | rejected _ _ => cases h

/-- **A frame is told to be a record** other than a rejected one exactly if it is recognized. -/
theorem classify_eq_iff_recognized (hr : r.kind ≠ .rejected) :
    classify frame = r ↔ Recognized frame r := by
  refine ⟨?_, classify_of_recognized⟩
  rintro rfl
  refine (recognized_or_rejected frame).resolve_right ?_
  rintro ⟨fault, hrejected⟩
  rw [hrejected] at hr
  exact hr rfl

theorem rejected_iff_not_recognized :
    (∃ fault, classify frame = .rejected frame fault) ↔ ∀ r, ¬ Recognized frame r := by
  constructor
  · rintro ⟨fault, hrejected⟩ r hr
    rw [classify_of_recognized hr] at hrejected
    rw [hrejected] at hr
    exact hr
  · exact fun h => (recognized_or_rejected frame).resolve_left (h _)

/-- **A capture tells of a frame what the checks of the line do**, but for replies: a status reply
is recognized only if its end code is that of success, and an acknowledgement only if it is short. A
frame is rejected exactly if it is refused by all four checks, these two cases apart. -/
theorem classify_eq_iff (frame : Bytes) :
    (∀ s, classify frame = .status s ↔
        Status.decode frame = .ok s ∧ statusHeader ++ Status.successCode <+: frame) ∧
      (∀ c, classify frame = .command c ↔ Command.decode frame = .ok c) ∧
      (classify frame = .ack ↔
        checkReply .commandAck frame = .ok () ∧ frame.length ≤ shortLength) ∧
      (classify frame = .statusRequest ↔ checkRequest frame = .ok .status) ∧
      ((∃ fault, classify frame = .rejected frame fault) ↔
        (∀ s, Status.decode frame = .ok s → ¬ statusHeader ++ Status.successCode <+: frame) ∧
          (∀ c, Command.decode frame ≠ .ok c) ∧
          (checkReply .commandAck frame = .ok () → shortLength < frame.length) ∧
          checkRequest frame ≠ .ok .status) := by
  refine ⟨fun s => classify_eq_iff_recognized nofun, fun c => classify_eq_iff_recognized nofun,
    classify_eq_iff_recognized nofun, classify_eq_iff_recognized nofun,
    rejected_iff_not_recognized.trans ⟨fun h => ?_, fun h r hr => ?_⟩⟩
  · exact ⟨fun s hs hheader => h (.status s) ⟨hs, hheader⟩, fun c => h (.command c),
      fun hack => Nat.lt_of_not_le fun hshort => h .ack ⟨hack, hshort⟩, h .statusRequest⟩
  · obtain ⟨hstatus, hcommand, hack, hrequest⟩ := h
    cases r with
    | status s => exact hstatus s hr.1 hr.2
    | command c => exact hcommand c hr
    | ack => exact Nat.not_le_of_lt (hack hr.1) hr.2
    | statusRequest => exact hrequest hr
    | rejected _ _ => exact hr

/-- A status reply that reports a failure in its end code. -/
def failedReply : Bytes :=
  Checksum.close (statusHeader ++ Bytes.ascii ['1', '3'] ++ ({} : Status).fields ++ Status.reserved)

/-- An acknowledgement with characters to spare. -/
def longAck : Bytes := Checksum.close (commandHeader ++ List.replicate 13 '0'.toUInt8)

/-- Neither of the two is recognized in a capture, though both pass their checks. -/
theorem replies_not_recognized :
    (frames failedReply = [failedReply] ∧ (∃ s, Status.decode failedReply = .ok s) ∧
        classify failedReply = .rejected failedReply (.tooShort 16 78)) ∧
      frames longAck = [longAck] ∧ checkReply .commandAck longAck = .ok () ∧
        classify longAck = .rejected longAck (.tooShort 56 21) := by
  have hdecodes : ∃ s, Status.decode failedReply = .ok s := by
    have hok : (Status.decode failedReply).isOk = true := by decide +kernel
    cases hs : Status.decode failedReply with
    | ok s => exact ⟨s, rfl⟩
    | error fault =>
      rw [hs] at hok
      cases hok
  exact ⟨⟨by decide +kernel, hdecodes, by decide +kernel⟩, by decide +kernel, rfl,
    by decide +kernel⟩

end Capture

end DomeLink
