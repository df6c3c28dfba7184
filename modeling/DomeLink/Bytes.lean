/-!
# Bytes of the line

Model of the byte strings that frames are made of: the delimiters of `frame`, the ranges of `layout`
as offset and width, `strip_cr` of `checksum`, and the pieces in which the simulator replies.

A frame is a list of bytes. `ascii` spells the fixed parts of a frame by their characters, and
`withoutCr` takes off the carriage return that ends a transmitted frame and that the receiving
side may or may not have kept.

Out of scope: the greatest length of a byte string in memory, which `Proofs/Machine` brings in.
-/

namespace DomeLink

/-- Bytes in the order in which they travel. -/
abbrev Bytes := List UInt8

namespace Bytes

/-- The bytes of ASCII characters. -/
def ascii (cs : List Char) : Bytes := cs.map Char.toUInt8

/-- The start delimiter `@`. -/
def start : UInt8 := '@'.toUInt8

/-- The end delimiter `*`. -/
def stop : UInt8 := '*'.toUInt8

/-- The carriage return that follows the end delimiter. -/
def cr : UInt8 := '\r'.toUInt8

/-- The bytes less one carriage return at their end. -/
def withoutCr (bs : Bytes) : Bytes := if bs.getLast? = some cr then bs.dropLast else bs

/-- The `width` bytes from `offset` on, if there are so many. -/
def slice? (bs : Bytes) (offset width : Nat) : Option Bytes :=
  if offset + width ≤ bs.length then some ((bs.drop offset).take width) else none

theorem slice?_eq_some_iff {bs s : Bytes} {offset width : Nat} :
    slice? bs offset width = some s ↔
      offset + width ≤ bs.length ∧ (bs.drop offset).take width = s := by
  simp [slice?]

theorem length_of_slice? {bs s : Bytes} {offset width : Nat} (h : slice? bs offset width = some s) :
    s.length = width := by
  obtain ⟨hle, rfl⟩ := slice?_eq_some_iff.1 h
  simp; omega

/-- The bytes cut into pieces of at most `size` bytes; a size of zero counts as one. -/
def chunks (size : Nat) (bs : Bytes) : List Bytes :=
  if _h : bs = [] then []
  else bs.take (max size 1) :: chunks size (bs.drop (max size 1))
termination_by bs.length
decreasing_by
  have : 0 < bs.length := List.length_pos_iff.2 _h
  rw [List.length_drop]
  omega

theorem flatten_chunks (size : Nat) (bs : Bytes) : (chunks size bs).flatten = bs := by
  fun_induction chunks size bs with
  | case1 => rfl
  | case2 bs h ih => simp [ih]

end Bytes

end DomeLink
