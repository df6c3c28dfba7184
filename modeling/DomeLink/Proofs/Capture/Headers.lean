import DomeLink.Proofs.Capture.Kinds
import DomeLink.Proofs.Command.Grammar
import DomeLink.Proofs.Status.Grammar
import DomeLink.Proofs.Wire.Damage

/-!
# Frames of other headers

A check compares the header of a frame only with the one header that it asks for. Which frames of a
capture are rejected for their headers is told by their first characters and their lengths
(`OtherHeader`): a capture recognizes the headers of the line, so such a frame has none of them, or
it is a command for another word address (`classify_eq_header_iff`).
-/

namespace DomeLink

open Assembler (IsFrame)
open DomeLink.Frame (statusHeader commandHeader commandAddress)

/-- The fault is not one of a header. -/
def Fault.NotHeader (e : Fault) : Prop := ∀ expected actual, e ≠ .header expected actual

theorem FieldFault.notHeader {frame : Bytes} {e : Fault} (h : FieldFault frame e) :
    e.NotHeader := by
  rintro expected actual rfl
  cases h

namespace Frame

open Fault (NotHeader)

variable {frame body header expected actual : Bytes} {e : Fault} {kind : ReplyKind}

theorem checkHeader_eq_error_iff :
    checkHeader header body = .error e ↔
      ¬ header <+: body ∧ .header header (body.take header.length) = e := by
  rw [← List.isPrefixOf_iff_prefix, checkHeader]
  split
  case isTrue h => exact iff_of_false (by rintro ⟨⟩) fun h' => h'.1 h
  case isFalse h => exact ⟨fun h' => ⟨h, Except.error.inj h'⟩, fun h' => congrArg _ h'.2⟩

/-- A header fault is one of the first check of headers. -/
theorem checkHeader_bind_eq_header_iff {β : Type} {rest : Unit → Outcome β}
    (hrest : FailsWith NotHeader (rest ())) :
    (checkHeader header body >>= rest) = .error (.header expected actual) ↔
      ¬ header <+: body ∧ header = expected ∧ body.take header.length = actual := by
  rw [bind_eq_error, checkHeader_eq_error_iff, Fault.header.injEq, or_iff_left]
  rintro ⟨⟨⟩, -, he⟩
  exact hrest _ he expected actual rfl

/-! ## What is looked at behind the header -/

theorem notHeader_checkSum (body : Bytes) : FailsWith NotHeader (checkSum body) := by
  unfold checkSum
  split
  · exact failsWith_error nofun
  · split
    · exact failsWith_ok _
    · exact failsWith_error nofun

theorem notHeader_checkBody (body : Bytes) : FailsWith NotHeader (checkBody body) := by
  unfold checkBody
  split
  · exact notHeader_checkSum body
  · exact failsWith_error nofun

theorem notHeader_checkEndCode (body : Bytes) : FailsWith NotHeader (checkEndCode body) := by
  refine .bind (Bytes.fails_hexField.mono fun e he => he.notHeader) fun code _ => ?_
  split
  · exact failsWith_ok _
  · exact failsWith_error nofun

/-! ## The checks -/

/-- **A reply is refused for its header** if it is long enough and delimited. -/
theorem checkReply_eq_header_iff :
    checkReply kind frame = .error (.header expected actual) ↔
      kind.minLength ≤ frame.withoutCr.length ∧ isDelimited frame.withoutCr = true ∧
        ¬ kind.header <+: frame.withoutCr ∧ kind.header = expected ∧
          frame.withoutCr.take kind.header.length = actual := by
  simp only [checkReply, refuse_eq_error, demand_eq_error, reduceCtorEq, and_false, false_or,
    Nat.not_lt]
  refine and_congr_right fun _ => and_congr_right fun _ => checkHeader_bind_eq_header_iff ?_
  refine .bind (notHeader_checkSum _) fun _ _ => ?_
  cases kind with
  | status => exact failsWith_ok ()
  | commandAck => exact notHeader_checkEndCode _

/-- **A command is refused for its header** if it is long enough. -/
theorem checkCommand_eq_header_iff :
    checkCommand frame = .error (.header expected actual) ↔
      56 ≤ frame.withoutCr.length ∧ ¬ commandHeader ++ commandAddress <+: frame.withoutCr ∧
        commandHeader ++ commandAddress = expected ∧ frame.withoutCr.take 9 = actual := by
  simp only [checkCommand, refuse_eq_error, reduceCtorEq, and_false, false_or, Nat.not_lt]
  exact and_congr_right fun _ => checkHeader_bind_eq_header_iff (notHeader_checkBody _)

/-- What starts like a status request is not refused for its header. -/
theorem notHeader_checkRequest (h : statusHeader <+: frame.withoutCr) :
    FailsWith NotHeader (checkRequest frame) := by
  have hcommand : ¬ commandHeader.isPrefixOf frame.withoutCr = true := by
    rw [List.isPrefixOf_iff_prefix]
    exact fun hcommand => not_statusHeader_of_commandHeader hcommand h
  rintro _ he expected actual rfl
  simp only [checkRequest, refuse_eq_error, reduceCtorEq, and_false, false_or, hcommand,
    Bool.false_eq_true, if_false] at he
  refine absurd h ((checkHeader_bind_eq_header_iff fun e hrest => ?_).1 he.2).1
  rcases refuse_eq_error.1 hrest with ⟨-, rfl⟩ | ⟨-, hbody⟩
  · rintro _ _ ⟨⟩
  · exact FailsWith.bind (notHeader_checkBody _) (fun _ _ => failsWith_ok _) e hbody

end Frame

namespace Capture

variable {frame f expected actual : Bytes}

/-- The fault of the header that is checked first. -/
theorem checkReply_of_decode_header (h : Status.decode frame = .error (.header expected actual)) :
    Frame.checkReply .status frame = .error (.header expected actual) :=
  (Status.fails_decode frame _ h).resolve_right fun hfield => hfield.notHeader _ _ rfl

theorem checkCommand_of_decode_header
    (h : Command.decode frame = .error (.header expected actual)) :
    Frame.checkCommand frame = .error (.header expected actual) :=
  (Command.fails_decode frame _ h).resolve_right fun hfield => hfield.notHeader _ _ rfl

theorem recordOf_eq_rejected_iff {α : Type} {record : α → CaptureRecord} {x : Outcome α} {e : Fault}
    (hrecord : ∀ a, record a ≠ .rejected f e) :
    recordOf frame record x = .rejected f e ↔ frame = f ∧ x = .error e := by
  cases x with
  | ok a => exact iff_of_false (hrecord a) fun h => nomatch h.2
  | error e' =>
    constructor
    · rintro ⟨⟩
      exact ⟨rfl, rfl⟩
    · rintro ⟨rfl, ⟨⟩⟩
      rfl

theorem isDelimited_of_isFrame (h : IsFrame frame) : Frame.isDelimited frame = true := by
  rw [Frame.isDelimited, h.opened, h.getLast?]
  rfl

/-! ## Captures -/

/-- **A frame of another header**, the header that is asked for in its place, and what stands there.
Every frame that has none of the headers is taken for an acknowledgement. -/
inductive OtherHeader (frame : Bytes) : Bytes → Bytes → Prop
  | ack (hlen : 10 ≤ frame.length) (hstatus : ¬ statusHeader <+: frame)
      (hcommand : ¬ commandHeader <+: frame) : OtherHeader frame commandHeader (frame.take 5)
  | command (hlen : 56 ≤ frame.length) (hcommand : commandHeader <+: frame)
      (haddress : ¬ commandHeader ++ commandAddress <+: frame) :
      OtherHeader frame (commandHeader ++ commandAddress) (frame.take 9)

theorem not_otherHeader_of_status (h : statusHeader <+: frame) :
    ¬ OtherHeader frame expected actual := by
  rintro (⟨-, hstatus, -⟩ | ⟨-, hcommand, -⟩)
  · exact hstatus h
  · exact Frame.not_statusHeader_of_commandHeader hcommand h

theorem checkCommand_iff_otherHeader (hcr : frame.withoutCr = frame) (h : commandHeader <+: frame) :
    Frame.checkCommand frame = .error (.header expected actual) ↔
      OtherHeader frame expected actual := by
  rw [Frame.checkCommand_eq_header_iff, hcr]
  constructor
  · rintro ⟨hlen, haddress, rfl, rfl⟩
    exact .command hlen h haddress
  · rintro (⟨-, -, hcommand⟩ | ⟨hlen, -, haddress⟩)
    · exact absurd h hcommand
    · exact ⟨hlen, haddress, rfl, rfl⟩

theorem checkAck_iff_otherHeader (hframe : IsFrame frame) (hstatus : ¬ statusHeader <+: frame)
    (hcommand : commandHeader <+: frame → frame.length ≤ shortLength) :
    Frame.checkReply .commandAck frame = .error (.header expected actual) ↔
      OtherHeader frame expected actual := by
  rw [Frame.checkReply_eq_header_iff, hframe.withoutCr]
  constructor
  · rintro ⟨hlen, -, hheader, rfl, rfl⟩
    exact .ack hlen hstatus hheader
  · rintro (⟨hlen, -, hheader⟩ | ⟨hlen, hheader, -⟩)
    · exact ⟨hlen, isDelimited_of_isFrame hframe, hheader, rfl, rfl⟩
    · have hshort := hcommand hheader
      rw [shortLength] at hshort
      omega

/-- **A frame is rejected for its header** exactly if it has another one. -/
theorem classify_eq_header_iff (hframe : IsFrame frame) :
    classify frame = .rejected f (.header expected actual) ↔
      frame = f ∧ OtherHeader frame expected actual := by
  rw [classify]
  simp only [Bool.and_eq_true, List.isPrefixOf_iff_prefix, decide_eq_true_eq]
  split
  case isTrue hstatus =>
    have hheader := (List.prefix_append _ _).trans hstatus.1
    rw [recordOf_eq_rejected_iff (by rintro _ ⟨⟩)]
    refine and_congr_right fun _ => iff_of_false (fun h => ?_) (not_otherHeader_of_status hheader)
    have hother := (Frame.checkReply_eq_header_iff.1 (checkReply_of_decode_header h)).2.2.1
    rw [hframe.withoutCr] at hother
    exact hother hheader
  split
  case isTrue hheader =>
    rw [recordOf_eq_rejected_iff (by rintro _ ⟨⟩)]
    refine and_congr_right fun _ => iff_of_false (fun h => ?_) (not_otherHeader_of_status hheader)
    rw [← hframe.withoutCr] at hheader
    exact Frame.notHeader_checkRequest hheader _ h expected actual rfl
  case isFalse hstatus =>
  split
  case isTrue hcommand =>
    rw [recordOf_eq_rejected_iff (by rintro _ ⟨⟩),
      ← checkCommand_iff_otherHeader hframe.withoutCr hcommand.1]
    refine and_congr_right fun _ => ⟨checkCommand_of_decode_header, fun h => ?_⟩
    rw [Command.decode, h]
    rfl
  case isFalse hshort =>
    rw [recordOf_eq_rejected_iff (by rintro _ ⟨⟩)]
    refine and_congr_right fun _ => checkAck_iff_otherHeader hframe hstatus fun hcommand => ?_
    exact Nat.le_of_not_lt fun hlong => hshort ⟨hcommand, hlong⟩

/-- The frames of a capture are frames. -/
theorem isFrame_of_mem_frames {data : Bytes} (h : frame ∈ frames data) : IsFrame frame := by
  have hall : frames data = (Assembler.pushAll { capacity := max data.length 1 } [data]).2 :=
    (List.append_nil _).symm
  rw [hall] at h
  exact (Assembler.isFrame_of_mem_pushAll h).1

end Capture

end DomeLink
