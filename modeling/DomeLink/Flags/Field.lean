import DomeLink.Flags.Basic
import DomeLink.Wire.Fault

/-!
# Flag words on the line

Model of how `status` and `command` in `plc-protocol` write and read flag words (specification,
section 10).

A flag word travels as hexadecimal digits: one for most mechanisms, which drops its high four bits,
and two for the focuser.
-/

namespace DomeLink.Flags

variable {t : FlagTable}

/-- The word as its last `width` hexadecimal digits. -/
def toDigits (width : Nat) (x : Flags t) : Bytes := Digits.writeHex width (UInt32.ofNat x.toNat)

/-- The word of the hexadecimal field at `offset`. -/
def ofField (frame : Bytes) (offset width : Nat) : Outcome (Flags t) :=
  (fun v => ofNat v.toUInt8.toNat) <$> frame.hexField offset width

@[simp] theorem length_toDigits (width : Nat) (x : Flags t) :
    (x.toDigits width).length = width := by
  simp [toDigits]

end DomeLink.Flags
