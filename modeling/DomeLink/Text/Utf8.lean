import DomeLink.Bytes

/-!
# UTF-8

Model of the two ways in which bytes become text: a configuration file is refused where it is
broken, while messages and the rows of rejected frames show a replacement there.

`scan` takes the first character off a list of bytes, or the longest beginning of one where the
bytes cannot go on to be UTF-8. `decode?` accepts well-formed text only; `decodeLossy` puts one
U+FFFD for each such broken beginning.
-/

namespace DomeLink.Utf8

/-- Where the next byte of a character must lie. -/
structure ByteRange where
  low : Nat
  high : Nat
  deriving DecidableEq, Repr

/-- The range of a continuation byte. -/
def tail : ByteRange := ⟨0x80, 0xBF⟩

/-- The value bits of a leading byte and the ranges of the bytes that complete its character.
The narrower second ranges shut out overlong forms, surrogates and what lies above U+10FFFF. -/
def lead? (b : Nat) : Option (Nat × List ByteRange) :=
  if b < 0x80 then some (b, [])
  else if b < 0xC2 then none
  else if b < 0xE0 then some (b - 0xC0, [tail])
  else if b = 0xE0 then some (b - 0xE0, [⟨0xA0, 0xBF⟩, tail])
  else if b = 0xED then some (b - 0xE0, [⟨0x80, 0x9F⟩, tail])
  else if b < 0xF0 then some (b - 0xE0, [tail, tail])
  else if b = 0xF0 then some (b - 0xF0, [⟨0x90, 0xBF⟩, tail, tail])
  else if b < 0xF4 then some (b - 0xF0, [tail, tail, tail])
  else if b = 0xF4 then some (b - 0xF0, [⟨0x80, 0x8F⟩, tail, tail])
  else none

/-- Goes through the completing bytes: the character, if all fit, and how many did. -/
def complete (value count : Nat) : List ByteRange → Bytes → Option Char × Nat
  | [], _ => (some (Char.ofNat value), count)
  | _ :: _, [] => (none, count)
  | r :: ranges, b :: rest =>
    if r.low ≤ b.toNat ∧ b.toNat ≤ r.high then
      complete (value * 64 + (b.toNat - 0x80)) (count + 1) ranges rest
    else (none, count)

/-- The character that starts with byte `b`, or none where it is broken, and the number of bytes
after `b` that belong to it. -/
def scan (b : UInt8) (rest : Bytes) : Option Char × Nat :=
  match lead? b.toNat with
  | some (value, ranges) => complete value 0 ranges rest
  | none => (none, 0)

/-- The characters of the bytes, and none for each broken one. -/
def pieces : Bytes → List (Option Char)
  | [] => []
  | b :: rest => (scan b rest).1 :: pieces (rest.drop (scan b rest).2)
termination_by bs => bs.length
decreasing_by
  simp only [List.length_drop, List.length_cons]
  omega

/-- The text that well-formed bytes encode. -/
def decode? (bs : Bytes) : Option (List Char) := (pieces bs).mapM id

/-- The replacement character U+FFFD. -/
def replacement : Char := Char.ofNat 0xFFFD

/-- The text of the bytes, with U+FFFD for each broken character. -/
def decodeLossy (bs : Bytes) : List Char := (pieces bs).map (·.getD replacement)

end DomeLink.Utf8
