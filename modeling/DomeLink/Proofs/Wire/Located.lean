import DomeLink.Proofs.Mechanism
import DomeLink.Proofs.Wire.Numbers

/-!
# Where a bad digit stands

A digit fault names an offset and a byte. `Bytes.Locates` says of a computation that this byte
stands at this offset of the frame, whenever it ends in such a fault. The readers of the fields end
in nothing but a `FieldFault`, whose digits are so located, and the checks in nothing but a
`CheckFault`, which is none of a digit. Both are kept when steps are put one behind the other
(`FailsWith.bind`), so they hold of the reading of a whole frame.
-/

namespace DomeLink

/-! ## Faults -/

/-- The faults in which the reading of a field of the frame ends. -/
inductive FieldFault (frame : Bytes) : Fault → Prop
  | tooShort (expected actual : Nat) : FieldFault frame (.tooShort expected actual)
  | digit {offset : Nat} {byte : UInt8} (h : frame[offset]? = some byte) :
    FieldFault frame (.digit offset byte)
  | outOfRange (quantity : Quantity) (value : Int) : FieldFault frame (.outOfRange quantity value)
  | overflow (op : WordOp) : FieldFault frame (.overflow op)
  | outOfBounds (index length : Nat) : FieldFault frame (.outOfBounds index length)

/-- The faults in which the check of a frame ends. -/
inductive CheckFault : Fault → Prop
  | tooShort (expected actual : Nat) : CheckFault (.tooShort expected actual)
  | delimiter : CheckFault .delimiter
  | header (expected actual : Bytes) : CheckFault (.header expected actual)
  | checksumField : CheckFault .checksumField
  | checksum (stored computed : UInt8) : CheckFault (.checksum stored computed)

/-! ## Readers -/

namespace Bytes

variable {frame : Bytes} {offset width : Nat} {α : Type}

/-- A digit fault of the computation names a byte of the frame and its place. -/
def Locates (frame : Bytes) (x : Outcome α) : Prop :=
  ∀ offset byte, x = .error (.digit offset byte) → frame[offset]? = some byte

/-- What ends in faults of checks and of fields alone locates its digits. -/
theorem locates_of_fails {x : Outcome α}
    (h : FailsWith (fun e => CheckFault e ∨ FieldFault frame e) x) : frame.Locates x := by
  intro offset byte he
  rcases h _ he with hcheck | hfield
  · cases hcheck
  · cases hfield with
    | digit h => exact h

theorem fails_field : FailsWith (FieldFault frame) (frame.field offset width) := by
  unfold field
  split
  · exact failsWith_ok _
  · exact failsWith_error (.tooShort _ _)

/-- A place in a field is a place in the frame. -/
theorem fails_mapError {bs : Bytes} {x : Except Digits.Fault α}
    (hfield : frame.field offset width = .ok bs)
    (hx : ∀ i b, x = .error (.invalid i b) → bs[i]? = some b) :
    FailsWith (FieldFault frame) (x.mapError (digitFault offset)) := by
  cases x with
  | ok a => exact failsWith_ok a
  | error e =>
    refine failsWith_error ?_
    cases e with
    | overflow op => exact .overflow op
    | invalid i c =>
      have hplace := hx i c rfl
      have hlt := (List.getElem?_eq_some_iff.1 hplace).1
      refine .digit ?_
      rw [← getElem?_of_field hfield (length_of_field hfield ▸ hlt)]
      exact hplace

theorem fails_hexField : FailsWith (FieldFault frame) (frame.hexField offset width) := by
  refine .bind fails_field fun bs hfield => fails_mapError hfield fun i b h => ?_
  exact (Digits.readHex_eq_invalid_iff.1 h).place

theorem fails_decimalField : FailsWith (FieldFault frame) (frame.decimalField offset width) := by
  refine .bind fails_field fun bs hfield => fails_mapError hfield fun i b h => ?_
  exact (Digits.readDecimal_eq_invalid_iff.1 h).2.place

theorem fails_byteAt : FailsWith (FieldFault frame) (frame.byteAt offset) := by
  unfold byteAt
  split
  · exact failsWith_ok _
  · exact failsWith_error (.outOfBounds _ _)

theorem fails_ofField {t : FlagTable} :
    FailsWith (FieldFault frame) (Flags.ofField frame offset width : Outcome (Flags t)) :=
  fails_hexField.map _

/-! ## Quantities -/

theorem fails_azimuthOfTicks (ticks : UInt32) :
    FailsWith (FieldFault frame) (azimuthOfTicks ticks) := by
  refine .bind ?_ fun _ _ => failsWith_ok _
  unfold Quantity.check
  split
  · exact failsWith_ok _
  · exact failsWith_error (.outOfRange _ _)

/-- The sign is the only digit of its field. -/
theorem fails_focusOfWire {sign : UInt8} (h : frame.byteAt offset = .ok sign)
    (magnitude : UInt32) : FailsWith (FieldFault frame) (focusOfWire sign magnitude offset) := by
  simp only [focusOfWire]
  split
  · split
    · exact failsWith_error (.overflow _)
    · exact failsWith_ok _
  · split
    · exact failsWith_ok _
    · exact failsWith_error (.digit (byteAt_eq_ok_iff.1 h))

theorem fails_ofCode (code : UInt8) : FailsWith (FieldFault frame) (EhtMode.ofCode code) := by
  unfold EhtMode.ofCode
  repeat' split
  all_goals first | exact failsWith_ok _ | exact failsWith_error (.outOfRange _ _)

end Bytes

/-! ## Checks -/

namespace Frame

theorem fails_checkHeader (header body : Bytes) :
    FailsWith CheckFault (checkHeader header body) := by
  unfold checkHeader
  split
  · exact failsWith_ok _
  · exact failsWith_error (.header _ _)

theorem fails_checkSum (body : Bytes) : FailsWith CheckFault (checkSum body) := by
  unfold checkSum
  split
  · exact failsWith_error .checksumField
  · split
    · exact failsWith_ok _
    · exact failsWith_error (.checksum _ _)

/-- The check of a status reply looks at no digit of a field. -/
theorem fails_checkReply_status (frame : Bytes) :
    FailsWith CheckFault (checkReply .status frame) := by
  simp only [checkReply]
  split
  case isTrue => exact failsWith_error (.tooShort _ _)
  case isFalse =>
    split
    case isFalse => exact failsWith_error .delimiter
    case isTrue =>
      exact .bind (fails_checkHeader _ _) fun _ _ => .bind (fails_checkSum _) fun _ _ =>
        failsWith_ok ()

theorem fails_checkCommand (frame : Bytes) : FailsWith CheckFault (checkCommand frame) := by
  simp only [checkCommand]
  split
  case isTrue => exact failsWith_error (.tooShort _ _)
  case isFalse =>
    refine .bind (fails_checkHeader _ _) fun _ _ => ?_
    unfold checkBody
    split
    case isTrue => exact fails_checkSum _
    case isFalse => exact failsWith_error .delimiter

end Frame

end DomeLink
