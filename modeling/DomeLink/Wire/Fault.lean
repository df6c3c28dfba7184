import DomeLink.Text.Quoted
import DomeLink.Text.Utf8
import DomeLink.Wire.Digits

/-!
# Why a frame or a value is refused

Model of `error` in `plc-protocol` (specification, section 11.2), which is `ProtocolError` with its
texts and `check_range`, and of the field readers in `digits`.

`Fault` lists the causes, one constructor each; `Fault.message` gives each its text. A quantity
with limits is a `Quantity`, and being outside them is the fault `outOfRange`. The last two
constructors, `overflow` and `outOfBounds`, are not refusals: they say that the computation itself
had no result. Frame decoding never ends in one of them.
-/

namespace DomeLink

/-- A quantity whose values have limits. -/
inductive Quantity
  | domeTicks
  | domeAzimuth
  | focusPosition
  | wheelSlot
  | domeFlopMin
  | domeFlopMax
  | ehtMode
  deriving DecidableEq, Repr

namespace Quantity

/-- The name of the quantity in messages. -/
def name : Quantity → String
  | domeTicks => "dome_ticks"
  | domeAzimuth => "dome_azimuth"
  | focusPosition => "focus_position"
  | wheelSlot => "wheel_slot"
  | domeFlopMin => "dome_flop_min"
  | domeFlopMax => "dome_flop_max"
  | ehtMode => "eht_mode"

/-- The greatest magnitude of the quantity. -/
def limit : Quantity → Nat
  | domeTicks | domeAzimuth => 3599
  | focusPosition => 999
  | wheelSlot => 9
  | domeFlopMin | domeFlopMax => 9999
  | ehtMode => 2

/-- The least value: only the focuser goes below zero. -/
def low : Quantity → Int
  | focusPosition => -999
  | _ => 0

/-- The greatest value. -/
def high (q : Quantity) : Int := q.limit

end Quantity

/-- Why a frame or a value is refused, or why an operation has no result. -/
inductive Fault
  /-- The frame has fewer bytes than its kind needs. -/
  | tooShort (expected actual : Nat)
  /-- The frame does not stand between its delimiters. -/
  | delimiter
  /-- The frame starts with another header. -/
  | header (expected actual : Bytes)
  /-- The check field differs from the check value of the content. -/
  | checksum (stored computed : UInt8)
  /-- The check field is not two uppercase hexadecimal digits. -/
  | checksumField
  /-- The controller answered with an end code other than zero. -/
  | endCode (code : UInt8)
  /-- The byte at `offset` is no digit of its field. -/
  | digit (offset : Nat) (byte : UInt8)
  /-- The value lies outside the limits of its quantity. -/
  | outOfRange (quantity : Quantity) (value : Int)
  /-- A word operation left its word. -/
  | overflow (op : WordOp)
  /-- A byte was asked for where the frame has none. -/
  | outOfBounds (index length : Nat)
  deriving DecidableEq, Repr

namespace Fault

/-- The text of the fault. -/
def message : Fault → String
  | tooShort expected actual =>
    s!"frame too short: expected at least {expected} bytes, got {actual}"
  | delimiter => "frame is not delimited by '@' ... '*'"
  | header expected actual =>
    "header mismatch: expected " ++ Text.quote (Utf8.decodeLossy expected) ++ ", got " ++
      Text.quote (Utf8.decodeLossy actual)
  | checksum stored computed =>
    "checksum mismatch: stored " ++ Text.upperHex 2 stored.toNat ++ ", computed " ++
      Text.upperHex 2 computed.toNat
  | checksumField => "checksum field is not hex"
  | endCode code => "controller end code " ++ Text.upperHex 2 code.toNat
  | digit offset byte => "invalid digit 0x" ++ Text.lowerHex 2 byte.toNat ++ s!" at offset {offset}"
  | outOfRange q value => q.name ++ s!" value {value} outside " ++ toString q.low ++ "..=" ++
      toString q.high
  | overflow op => op.message
  | outOfBounds index length =>
    s!"index out of bounds: the length is {length} but the index is {index}"

/-- The computation itself had no result, as opposed to a refusal of its input. -/
def isCrash : Fault → Bool
  | overflow _ | outOfBounds _ _ => true
  | _ => false

end Fault

/-- A value, or the fault that stands in its way. -/
abbrev Outcome := Except Fault

/-- Accepts the values within the limits of the quantity. -/
def Quantity.check (q : Quantity) (value : Int) : Outcome Unit :=
  if q.low ≤ value ∧ value ≤ q.high then .ok () else .error (.outOfRange q value)

namespace Bytes

/-- A digit fault as a fault of the frame that holds the digits from `offset` on. -/
def digitFault (offset : Nat) : Digits.Fault → Fault
  | .invalid index byte => .digit (offset + index) byte
  | .overflow op => .overflow op

/-- The field of `width` bytes at `offset`. -/
def field (frame : Bytes) (offset width : Nat) : Outcome Bytes :=
  match frame.slice? offset width with
  | some bs => .ok bs
  | none => .error (.tooShort (offset + width) frame.length)

/-- The value of the hexadecimal field at `offset`. -/
def hexField (frame : Bytes) (offset width : Nat) : Outcome UInt32 := do
  (Digits.readHex (← frame.field offset width)).mapError (digitFault offset)

/-- The value of the decimal field at `offset`. -/
def decimalField (frame : Bytes) (offset width : Nat) : Outcome UInt32 := do
  (Digits.readDecimal (← frame.field offset width)).mapError (digitFault offset)

/-- The byte at `offset`. -/
def byteAt (frame : Bytes) (offset : Nat) : Outcome UInt8 :=
  match frame[offset]? with
  | some b => .ok b
  | none => .error (.outOfBounds offset frame.length)

end Bytes

end DomeLink
