import DomeLink.Wire.Digits

/-!
# The frame check sequence

Model of `checksum` in `plc-protocol` (specification, sections 4.2 and 10): `compute_fcs`,
`fcs_chars`, `fcs_offset`, `stored_and_computed`, `check_fcs` and `update_fcs`. The last of these
has the frame as its result here and does not change it in place.

The check sequence of a frame is the exclusive or of its bytes from the start delimiter up to the
check field, written as two uppercase hexadecimal digits right before the end delimiter. Lowercase
digits are refused: were they taken, a flipped case bit in the field would pass unseen.
-/

namespace DomeLink.Checksum

/-- The exclusive or of all bytes. -/
def compute (bs : Bytes) : UInt8 := bs.foldl (· ^^^ ·) 0

/-- The two characters of a check value. -/
def chars (value : UInt8) : Bytes :=
  [Digits.hexDigit (value >>> 4), Digits.hexDigit (value &&& 0x0F)]

/-- Where the check field of a delimited frame starts. -/
def offset? (frame : Bytes) : Option Nat :=
  let body := frame.withoutCr
  if 4 ≤ body.length ∧ body.head? = some Bytes.start ∧ body.getLast? = some Bytes.stop then
    some (body.length - 3)
  else none

/-- A digit as the check field spells it. -/
def isFieldDigit (b : UInt8) : Bool := (0x30 ≤ b && b ≤ 0x39) || (0x41 ≤ b && b ≤ 0x46)

/-- The value that a check field spells. -/
def readField? (field : Bytes) : Option UInt8 :=
  if field.all isFieldDigit then
    match Digits.readHex field with
    | .ok v => some v.toUInt8
    | .error _ => none
  else none

/-- The check value that a frame carries and the one that its content gives. -/
def storedAndComputed? (frame : Bytes) : Option (UInt8 × UInt8) := do
  let offset ← offset? frame
  let stored ← readField? ((frame.drop offset).take 2)
  return (stored, compute (frame.take offset))

/-- A delimited frame whose check field is right. -/
def verify (frame : Bytes) : Bool :=
  match storedAndComputed? frame with
  | some (stored, computed) => stored == computed
  | none => false

/-- The frame with its check field made right; what is not delimited stays as it is. -/
def update (frame : Bytes) : Bytes :=
  match offset? frame with
  | some offset =>
    frame.take offset ++ chars (compute (frame.take offset)) ++ frame.drop (offset + 2)
  | none => frame

/-- The transmitted frame with the given header and data: check field, end delimiter and carriage
return follow them. -/
def terminate (content : Bytes) : Bytes :=
  content ++ chars (compute content) ++ [Bytes.stop, Bytes.cr]

@[simp] theorem length_chars (value : UInt8) : (chars value).length = 2 := rfl

@[simp] theorem length_terminate (content : Bytes) :
    (terminate content).length = content.length + 4 := by
  simp [terminate]

end DomeLink.Checksum
