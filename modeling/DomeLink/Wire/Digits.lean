import DomeLink.Bytes

/-!
# Digit fields

Model of `digits` in `plc-protocol` (specification, sections 4.2 and 10): `hex_digit`, `parse_hex`,
`parse_decimal`, `write_hex` and `write_decimal`.

Numbers travel as ASCII digits of a fixed width, most significant digit first: quantities in
decimal, flag fields in hexadecimal. Reading works in 32-bit words and goes from left to right, so
of two faults the leftmost is reported.

* `readDecimal` refuses the first byte that is no digit, and overflows where the value so far
  leaves 32 bits.
* `readHex` takes letters of either case; bits above 32 are shifted out without a fault.
* `writeDecimal` and `writeHex` fill exactly the given width and drop the digits above it.

Out of scope: writing into a frame in place, since digits are a result here; and arithmetic that
wraps around unnoticed, since overflow is a fault here.
-/

namespace DomeLink

/-- A word operation whose exact result leaves its word. -/
inductive WordOp
  | multiply
  | add
  | negate
  deriving DecidableEq, Repr

/-- The report of an operation that left its word. -/
def WordOp.message : WordOp → String
  | .multiply => "attempt to multiply with overflow"
  | .add => "attempt to add with overflow"
  | .negate => "attempt to negate with overflow"

namespace Digits

/-- Why a run of digits has no value. -/
inductive Fault
  /-- The byte at `index` is not a digit of the radix. -/
  | invalid (index : Nat) (byte : UInt8)
  /-- The value leaves 32 bits. -/
  | overflow (op : WordOp)
  deriving DecidableEq, Repr

/-- The uppercase hexadecimal digit of the low four bits. -/
def hexDigit (n : UInt8) : UInt8 :=
  let d := n &&& 0x0F
  if d < 10 then 0x30 + d else 0x37 + d

/-- The value of a hexadecimal digit of either case. -/
def hexValue? (b : UInt8) : Option UInt8 :=
  if 0x30 ≤ b ∧ b ≤ 0x39 then some (b - 0x30)
  else if 0x41 ≤ b ∧ b ≤ 0x46 then some (b - 0x37)
  else if 0x61 ≤ b ∧ b ≤ 0x66 then some (b - 0x57)
  else none

/-- The value of a decimal digit. -/
def decimalValue? (b : UInt8) : Option UInt8 :=
  if 0x30 ≤ b ∧ b ≤ 0x39 then some (b - 0x30) else none

/-- Reads on from the value `acc` of the first `index` digits. -/
def readHexFrom (acc : UInt32) (index : Nat) : Bytes → Except Fault UInt32
  | [] => .ok acc
  | b :: rest =>
    match hexValue? b with
    | some v => readHexFrom ((acc <<< 4) ||| v.toUInt32) (index + 1) rest
    | none => .error (.invalid index b)

/-- The value of hexadecimal digits, modulo 2 ^ 32. -/
def readHex (bs : Bytes) : Except Fault UInt32 := readHexFrom 0 0 bs

/-- The value of one more decimal digit after those of value `acc`. -/
def appendDecimal (acc : UInt32) (digit : UInt8) : Except Fault UInt32 :=
  if acc.toNat * 10 < UInt32.size then
    if acc.toNat * 10 + digit.toNat < UInt32.size then .ok (acc * 10 + digit.toUInt32)
    else .error (.overflow .add)
  else .error (.overflow .multiply)

/-- Reads on from the value `acc` of the first `index` digits. -/
def readDecimalFrom (acc : UInt32) (index : Nat) : Bytes → Except Fault UInt32
  | [] => .ok acc
  | b :: rest =>
    match decimalValue? b with
    | some v =>
      match appendDecimal acc v with
      | .ok next => readDecimalFrom next (index + 1) rest
      | .error e => .error e
    | none => .error (.invalid index b)

/-- The value of decimal digits. -/
def readDecimal (bs : Bytes) : Except Fault UInt32 := readDecimalFrom 0 0 bs

/-- The last `width` decimal digits of a value. -/
def writeDecimal : Nat → UInt32 → Bytes
  | 0, _ => []
  | width + 1, v => writeDecimal width (v / 10) ++ [0x30 + (v % 10).toUInt8]

/-- The last `width` hexadecimal digits of a value, in uppercase. -/
def writeHex : Nat → UInt32 → Bytes
  | 0, _ => []
  | width + 1, v => writeHex width (v >>> 4) ++ [hexDigit (v &&& 0x0F).toUInt8]

@[simp] theorem length_writeDecimal (width : Nat) (v : UInt32) :
    (writeDecimal width v).length = width := by
  induction width generalizing v with
  | zero => rfl
  | succ n ih => simp [writeDecimal, ih]

@[simp] theorem length_writeHex (width : Nat) (v : UInt32) : (writeHex width v).length = width := by
  induction width generalizing v with
  | zero => rfl
  | succ n ih => simp [writeHex, ih]

end Digits

end DomeLink
