import DomeLink.Proofs.Machine.Digits
import DomeLink.Proofs.Wire.Field
import DomeLink.Wire.Frame

/-!
# Frames on the machine

How the machine finds, reads and renews the check field of a frame, and checks frames. The bytes
that it takes are there since it looks at the length first: a frame with a check field has four
bytes without its carriage return, and every kind of frame has a least length that is longer than
its header.

* `fcsOffset_eq`, `storedAndComputed_eq`, `updateFcs_eq`: the check field, of any bytes.
* `computes_checkReply`, `computes_checkCommand`, `computes_checkRequest`: the checks of frames.
-/

namespace DomeLink.Machine

open DomeLink.Frame (ReplyKind RequestKind)

variable {ε : Type} {frame body : Bytes}

theorem length_withoutCr_le (frame : Bytes) : frame.withoutCr.length ≤ frame.length := by
  obtain ⟨tail, htail⟩ := Bytes.exists_eq_withoutCr_append frame
  calc frame.withoutCr.length ≤ frame.withoutCr.length + tail.length := Nat.le_add_right _ _
    _ = (frame.withoutCr ++ tail).length := List.length_append.symm
    _ = frame.length := congrArg List.length htail.symm

/-! ## The check field -/

/-- The first byte starts a frame and the last byte ends it. The last one is looked at only if the
first one does. -/
def delimited (body : Bytes) : Run ε Bool := do
  let first ← byteOf body 0
  if first = Bytes.start then do
    let index ← subSize body.length 1
    let last ← byteOf body index
    return last = Bytes.stop
  else return false

/-- Where the check field of a delimited frame starts. -/
def fcsOffset (frame : Bytes) : Run ε (Option Nat) := do
  let body := frame.withoutCr
  if body.length < 4 then return none
  else if ← delimited body then do
    let last ← subSize body.length 1
    let offset ← subSize last 2
    return some offset
  else return none

/-- The two characters of a check value. -/
def fcsChars (value : UInt8) : Run ε Bytes := do
  let high ← hexDigit (value >>> 4)
  let low ← hexDigit (value &&& 0x0F)
  return [high, low]

/-- The check value that a frame carries and the one that its content gives. -/
def storedAndComputed (frame : Bytes) : Run ε (Option (UInt8 × UInt8)) := do
  match ← fcsOffset frame with
  | none => return none
  | some offset => do
    let last ← addSize offset 2
    let field ← sliceOf frame offset last
    if field.all Checksum.isFieldDigit then
      match ← attempt (readHexFrom 0 0 field) with
      | .error _ => return none
      | .ok stored => do
        let content ← sliceOf frame 0 offset
        return some (stored.toUInt8, Checksum.compute content)
    else return none

/-- The frame with its check field made right; what is not delimited stays as it is. -/
def updateFcs (frame : Bytes) : Run ε Bytes := do
  match ← fcsOffset frame with
  | none => return frame
  | some offset => do
    let content ← sliceOf frame 0 offset
    let chars ← fcsChars (Checksum.compute content)
    let last ← addSize offset 2
    copyTo frame offset last chars

theorem delimited_eq (h : 0 < body.length) :
    (delimited body : Run ε Bool) = .ok (Frame.isDelimited body) := by
  have hne : body ≠ [] := List.ne_nil_of_length_pos h
  have hfirst : body[0]? = some (body.head hne) := by
    rw [← List.head?_eq_getElem?, List.head?_eq_some_head hne]
  have hlast : body[body.length - 1]? = some (body.getLast hne) := by
    rw [← List.getLast?_eq_getElem?, List.getLast?_eq_some_getLast hne]
  rw [delimited, byteOf_eq hfirst, ok_bind, subSize_eq h, ok_bind, byteOf_eq hlast, ok_bind,
    Frame.isDelimited, List.head?_eq_some_head hne, List.getLast?_eq_some_getLast hne]
  split
  case isTrue heq => simp [heq]; rfl
  case isFalse hneq => simp [hneq]; rfl

/-- **The place of the check field**, of any bytes. -/
theorem fcsOffset_eq (frame : Bytes) :
    (fcsOffset frame : Run ε _) = .ok (Checksum.offset? frame) := by
  rw [fcsOffset, Checksum.offset?]
  by_cases hlen : frame.withoutCr.length < 4
  · rw [if_pos hlen, if_neg (by omega)]
    rfl
  · have hdelimited : Frame.isDelimited frame.withoutCr = true ↔
        4 ≤ frame.withoutCr.length ∧ frame.withoutCr.head? = some Bytes.start ∧
          frame.withoutCr.getLast? = some Bytes.stop := by
      simp [Frame.isDelimited, Nat.not_lt.1 hlen]
    rw [if_neg hlen, delimited_eq (by omega), ok_bind, subSize_eq (by omega), ok_bind,
      subSize_eq (by omega), ok_bind]
    simp only [← hdelimited]
    split <;> rfl

theorem fcsChars_eq (value : UInt8) :
    (fcsChars value : Run ε Bytes) = .ok (Checksum.chars value) := by
  rw [fcsChars, hexDigit_eq, ok_bind, hexDigit_eq, ok_bind]
  rfl

/-- The check field lies in the frame. -/
theorem add_two_le_of_offset? {offset : Nat} (h : Checksum.offset? frame = some offset) :
    offset + 2 ≤ frame.length := by
  have hlen := length_withoutCr_le frame
  simp only [Checksum.offset?] at h
  split at h
  case isTrue hdelimited =>
    cases h
    omega
  case isFalse => cases h

/-- **The check field and the check value**, of any bytes. -/
theorem storedAndComputed_eq (h : frame.length < sizes) :
    (storedAndComputed frame : Run ε _) = .ok (Checksum.storedAndComputed? frame) := by
  rw [storedAndComputed, fcsOffset_eq, ok_bind, Checksum.storedAndComputed?]
  cases hoffset : Checksum.offset? frame with
  | none => rfl
  | some offset =>
    have hfits := add_two_le_of_offset? hoffset
    have hsum : (addSize offset 2 : Run ε Nat) = .ok (offset + 2) := addSize_eq (by omega)
    have hfield : (sliceOf frame offset (offset + 2) : Run ε Bytes) =
        .ok ((frame.drop offset).take 2) := by
      rw [sliceOf_eq (Nat.le_add_right _ _) hfits, Nat.add_sub_cancel_left]
    have hcontent : (sliceOf frame 0 offset : Run ε Bytes) = .ok (frame.take offset) :=
      sliceOf_zero (by omega)
    simp only [hsum, hfield, hcontent, ok_bind, readHexFrom_eq, attempt_refusing,
      Option.bind_eq_bind, Option.bind_some]
    generalize (frame.drop offset).take 2 = field
    simp only [Checksum.readField?, Digits.readHex]
    by_cases hall : field.all Checksum.isFieldDigit = true
    · simp only [if_pos hall]
      cases Digits.readHexFrom 0 0 field <;> rfl
    · simp only [if_neg hall]
      rfl

/-- **The frame with its check field made right**, of any bytes. -/
theorem updateFcs_eq (h : frame.length < sizes) :
    (updateFcs frame : Run ε Bytes) = .ok (Checksum.update frame) := by
  rw [updateFcs, fcsOffset_eq, ok_bind, Checksum.update]
  cases hoffset : Checksum.offset? frame with
  | none => rfl
  | some offset =>
    have hfits := add_two_le_of_offset? hoffset
    have hsum : (addSize offset 2 : Run ε Nat) = .ok (offset + 2) := addSize_eq (by omega)
    have hcontent : (sliceOf frame 0 offset : Run ε Bytes) = .ok (frame.take offset) :=
      sliceOf_zero (by omega)
    simp only [hsum, hcontent, ok_bind, fcsChars_eq]
    exact copyTo_eq (Checksum.chars _) hfits

/-! ## The checks -/

/-- Accepts a frame that starts with the header. -/
def checkHeader (header body : Bytes) : Run Fault Unit :=
  if header.isPrefixOf body then .ok ()
  else do
    let actual ← sliceOf body 0 header.length
    refuse (.header header actual)

/-- Accepts a frame whose check field is right. -/
def checkSum (body : Bytes) : Run Fault Unit := do
  match ← storedAndComputed body with
  | none => refuse .checksumField
  | some (stored, computed) =>
    if stored = computed then .ok () else refuse (.checksum stored computed)

/-- Accepts a delimited frame whose check field is right. -/
def checkBody (body : Bytes) : Run Fault Unit := do
  if ← delimited body then checkSum body else refuse .delimiter

/-- Accepts the end code zero. -/
def checkEndCode (body : Bytes) : Run Fault Unit := do
  let code ← hexField body 5 2
  if code.toUInt8 = 0 then .ok () else refuse (.endCode code.toUInt8)

/-- Checks a reply of the given kind. -/
def checkReply (kind : ReplyKind) (frame : Bytes) : Run Fault Unit := do
  let body := frame.withoutCr
  if body.length < kind.minLength then refuse (.tooShort kind.minLength body.length)
  else if ← delimited body then do
    checkHeader kind.header body
    checkSum body
    match kind with
    | .status => .ok ()
    | .commandAck => checkEndCode body
  else refuse .delimiter

/-- Checks a command. -/
def checkCommand (frame : Bytes) : Run Fault Unit := do
  let body := frame.withoutCr
  if body.length < Frame.commandLength then refuse (.tooShort Frame.commandLength body.length)
  else do
    checkHeader (Frame.commandHeader ++ Frame.commandAddress) body
    checkBody body

/-- Tells the kind of a request and checks it. -/
def checkRequest (frame : Bytes) : Run Fault RequestKind := do
  let body := frame.withoutCr
  if body.length < 6 then refuse (.tooShort Frame.statusRequestLength body.length)
  else if Frame.commandHeader.isPrefixOf body then do
    checkCommand frame
    return .command
  else do
    checkHeader Frame.statusHeader body
    if body.length ≠ Frame.statusRequestLength then
      refuse (.tooShort Frame.statusRequestLength body.length)
    else do
      checkBody body
      return .status

theorem computes_checkHeader {header : Bytes} (h : header.length ≤ body.length) :
    Computes (checkHeader header body) (Frame.checkHeader header body) := by
  refine computes_ite (fun _ => computes_ok ()) fun _ => ?_
  rw [sliceOf_zero h]
  exact computes_refuse rfl

theorem computes_checkSum (h : body.length < sizes) :
    Computes (checkSum body) (Frame.checkSum body) := by
  rw [checkSum, storedAndComputed_eq h, ok_bind, Frame.checkSum]
  cases Checksum.storedAndComputed? body with
  | none => exact computes_refuse rfl
  | some values => exact computes_ite (fun _ => computes_ok ()) fun _ => computes_refuse rfl

theorem computes_checkBody (hpos : 0 < body.length) (h : body.length < sizes) :
    Computes (checkBody body) (Frame.checkBody body) := by
  rw [checkBody, delimited_eq hpos, ok_bind, Frame.checkBody]
  exact computes_ite (fun _ => computes_checkSum h) fun _ => computes_refuse rfl

theorem computes_checkEndCode (body : Bytes) :
    Computes (checkEndCode body) (Frame.checkEndCode body) :=
  (computes_hexField (by decide)).bind fun _ _ =>
    computes_ite (fun _ => computes_ok ()) fun _ => computes_refuse rfl

section

variable (h : frame.length < sizes)
include h

/-- **Any bytes are checked as a reply without a trap.** -/
theorem computes_checkReply (kind : ReplyKind) :
    Computes (checkReply kind frame) (Frame.checkReply kind frame) := by
  have hbody := Nat.lt_of_le_of_lt (length_withoutCr_le frame) h
  have hheader : kind.header.length ≤ kind.minLength ∧ 0 < kind.minLength := by
    cases kind <;> decide
  refine computes_ite (fun _ => computes_refuse rfl) fun hlen => ?_
  rw [delimited_eq (by omega), ok_bind]
  refine computes_ite (fun _ => ?_) fun _ => computes_refuse rfl
  refine (computes_checkHeader (by omega)).bind fun _ _ => ?_
  refine (computes_checkSum hbody).bind fun _ _ => ?_
  cases kind with
  | status => exact computes_ok ()
  | commandAck => exact computes_checkEndCode _

/-- **Any bytes are checked as a command without a trap.** -/
theorem computes_checkCommand :
    Computes (checkCommand frame) (Frame.checkCommand frame) := by
  have hbody := Nat.lt_of_le_of_lt (length_withoutCr_le frame) h
  have hheader : (Frame.commandHeader ++ Frame.commandAddress).length ≤ Frame.commandLength := by
    decide
  refine computes_ite (fun _ => computes_refuse rfl) fun hlen => ?_
  refine (computes_checkHeader (by omega)).bind fun _ _ => ?_
  exact computes_checkBody (by simp only [Frame.commandLength] at hlen; omega) hbody

/-- **Any bytes are checked as a request without a trap.** -/
theorem computes_checkRequest :
    Computes (checkRequest frame) (Frame.checkRequest frame) := by
  have hbody := Nat.lt_of_le_of_lt (length_withoutCr_le frame) h
  have hheader : Frame.statusHeader.length ≤ 6 := by decide
  refine computes_ite (fun _ => computes_refuse rfl) fun hlen => ?_
  refine computes_ite (fun _ => ?_) fun _ => ?_
  · exact (computes_checkCommand h).bind fun _ _ => computes_ok RequestKind.command
  · refine (computes_checkHeader (by omega)).bind fun _ _ => ?_
    refine computes_ite (fun _ => computes_refuse rfl) fun _ => ?_
    exact (computes_checkBody (by omega) hbody).bind fun _ _ => computes_ok RequestKind.status

end

end DomeLink.Machine
