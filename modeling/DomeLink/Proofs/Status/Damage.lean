import DomeLink.Proofs.Status.Fields
import DomeLink.Proofs.Wire.Damage

/-!
# No damaged status is taken in

A status reply in which one byte has been damaged on the line is delivered as it was sent, if it is
delivered at all, or what is delivered in its place is refused. That goes for every damage, that of
a delimiter included, and however the stream is cut: `damaged_byte_never_applied`.
-/

namespace DomeLink

open Bytes (start stop)

/-- What is checked does not depend on the carriage return. -/
theorem Frame.checkReply_congr {kind : ReplyKind} {frame frame' : Bytes}
    (h : frame.withoutCr = frame'.withoutCr) : checkReply kind frame = checkReply kind frame' := by
  unfold checkReply
  rw [h]

namespace Status

/-- What is read does not depend on the carriage return. -/
theorem decode_close {content : Bytes} (hlen : StatusField.fieldsEnd ≤ content.length) :
    decode (Checksum.close content) = decode (Checksum.terminate content) := by
  have hterm := Checksum.terminate_eq_close content
  have hlen' : StatusField.fieldsEnd ≤ (Checksum.close content).length := by
    rw [Checksum.length_close]
    omega
  refine (decode_congr ?_ ?_ ?_).symm
  · rw [hterm, List.length_append]
    omega
  · exact Frame.checkReply_congr (by rw [Checksum.withoutCr_terminate, Checksum.withoutCr_close])
  · rw [hterm]
    exact StatusField.sameAt_append hlen' _

/-- The fields are written in digits, and the sign of the focuser position is one. -/
theorem all_isFieldDigit_fields (s : Status) : s.fields.all Checksum.isFieldDigit = true := by
  have hsign : Checksum.isFieldDigit (focusToWire s.focusPosition).1 = true := by
    unfold focusToWire
    dsimp only
    split <;> decide
  unfold fields Flags.toDigits
  repeat rw [List.all_append]
  repeat rw [Checksum.all_isFieldDigit_writeDecimal]
  repeat rw [Checksum.all_isFieldDigit_writeHex]
  rw [List.all_cons, hsign]
  rfl

/-- The content of a reply, less its `@`. -/
def replyRest (s : Status) : Bytes :=
  Frame.statusHeader.tail ++ successCode ++ s.fields ++ reserved

theorem not_mem_replyRest (s : Status) {b : UInt8} (hdigit : Checksum.isFieldDigit b = false)
    (hfixed : b ∉ Frame.statusHeader.tail ++ successCode ++ reserved) : b ∉ s.replyRest := by
  have hfields := Checksum.not_mem_of_isFieldDigit s.all_isFieldDigit_fields hdigit
  simp only [List.mem_append, not_or] at hfixed
  simp [replyRest, hfixed, hfields]

theorem length_replyRest (s : Status) : s.replyRest.length = 74 := by
  simp [replyRest, Frame.statusHeader, successCode, reserved, Bytes.ascii]

/-- A reply has no `W`, so no piece of it starts like an acknowledgement. -/
theorem not_mem_close_replyRest (s : Status) :
    'W'.toUInt8 ∉ Checksum.close (start :: s.replyRest) := by
  have hrest := s.not_mem_replyRest (b := 'W'.toUInt8) (by decide) (by decide)
  have hchars := Checksum.not_mem_of_isFieldDigit (b := 'W'.toUInt8)
    (Checksum.all_isFieldDigit_chars (Checksum.compute (start :: s.replyRest))) (by decide)
  have hdelim : 'W'.toUInt8 ≠ start ∧ 'W'.toUInt8 ≠ stop := by decide
  simp only [Checksum.close, List.mem_append, List.mem_cons, List.not_mem_nil, hrest, hchars,
    hdelim, or_self, not_false_eq_true]

end Status

/-- **A status reply with one damaged byte** is delivered as it was sent, or refused. -/
theorem Assembler.status_damaged {s : Status} {chunks : List Bytes} {frame : Bytes}
    (hd : Bytes.Damaged s.encode chunks.flatten) {capacity : Nat}
    (hmem : frame ∈ (pushAll { capacity } chunks).2) :
    Frame.Refused frame ∨ frame = Checksum.close (start :: s.replyRest) := by
  have hstart := s.not_mem_replyRest (b := start) (by decide) (by decide)
  have hstop := s.not_mem_replyRest (b := stop) (by decide) (by decide)
  rcases frame_cases_of_damaged hstart hstop hd hmem with hsent | hrefused | ⟨hlen, hsub⟩
  · exact .inr hsent
  · exact .inl hrefused
  · refine .inl (Frame.refused_of_header (isFrame_of_mem_pushAll hmem).1 fun kind hheader => ?_)
    cases kind with
    | status =>
      rw [Status.length_replyRest] at hlen
      exact hlen
    | commandAck => exact absurd (hsub (hheader.subset (by decide))) s.not_mem_close_replyRest

/-- **Damage to one byte is never applied.** Whatever a fresh assembler delivers of a status reply
or an acknowledgement in which one byte has been damaged, is refused as a reply of either kind, or
is the frame as it was sent. -/
theorem Assembler.damaged_byte_never_applied (capacity : Nat) (chunks : List Bytes) :
    (∀ s : Status, Bytes.Damaged s.encode chunks.flatten →
      ∀ frame ∈ (pushAll { capacity } chunks).2, Frame.Refused frame ∨
        frame = s.encode.dropLast ∧ Status.decode frame = Status.decode s.encode) ∧
    ∀ endCode, Bytes.Damaged (Frame.commandAck endCode) chunks.flatten →
      ∀ frame ∈ (pushAll { capacity } chunks).2, Frame.Refused frame ∨
        frame = (Frame.commandAck endCode).dropLast := by
  refine ⟨fun s hd frame hmem => ?_, fun endCode hd frame hmem => commandAck_damaged hd hmem⟩
  have hsent : s.encode = Checksum.terminate (start :: s.replyRest) := rfl
  refine (status_damaged hd hmem).imp_right fun hframe => ?_
  rw [hframe, hsent]
  refine ⟨(Checksum.dropLast_terminate _).symm, Status.decode_close ?_⟩
  rw [List.length_cons, Status.length_replyRest]
  decide

/-- A status reply whose carriage return has become an `@` is delivered as it was sent; of an
acknowledgement with one more `@` a piece is delivered, and refused. -/
theorem Assembler.damaged_byte_never_applied_to_delivered :
    let reply := Status.encode {}
    let chunks := [reply.take 30, reply.dropLast.drop 30 ++ [start]]
    let chunks' :=
      [Bytes.ascii ['@', '0'], Bytes.ascii ['@', 'W', 'D', '0', '0', '5', '3', '*', '\r']]
    Bytes.Damaged reply chunks.flatten ∧ (pushAll { capacity := 79 } chunks).2 = [reply.dropLast] ∧
      (∀ frame ∈ (pushAll { capacity := 79 } chunks).2, Frame.Refused frame ∨
        frame = reply.dropLast ∧ Status.decode frame = Status.decode reply) ∧
      Bytes.Damaged (Frame.commandAck 0) chunks'.flatten ∧
      (pushAll { capacity := 79 } chunks').2 =
        [Bytes.ascii ['@', 'W', 'D', '0', '0', '5', '3', '*']] ∧
      ∀ frame ∈ (pushAll { capacity := 79 } chunks').2, Frame.Refused frame ∨
        frame = (Frame.commandAck 0).dropLast := by
  intro reply chunks chunks'
  have hd : Bytes.Damaged reply chunks.flatten :=
    ⟨reply.dropLast, Bytes.cr, start, [], by decide, by decide +kernel, by decide +kernel⟩
  have hd' : Bytes.Damaged (Frame.commandAck 0) chunks'.flatten :=
    ⟨Bytes.ascii ['@', '0'], '0'.toUInt8, start,
      Bytes.ascii ['W', 'D', '0', '0', '5', '3', '*', '\r'],
      by decide, by decide +kernel, by decide +kernel⟩
  exact ⟨hd, by decide +kernel, (damaged_byte_never_applied 79 chunks).1 {} hd, hd',
    by decide +kernel, (damaged_byte_never_applied 79 chunks').2 0 hd'⟩

end DomeLink
