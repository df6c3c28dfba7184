import DomeLink.Flags.Field
import DomeLink.Command.Basic
import DomeLink.Wire.Frame

/-!
# Command frames

Model of `encode` and `decode` of `CommandBuffer`, with the offsets of `layout` (specification,
section 10).

`Command.encode` writes a command; quantities that are too large lose their leading digits, flag
words their high four bits. `Command.decode` checks a command frame and reads it as the controller
does. It reads the focuser target before the other fields, which shows where two fields are bad.
-/

namespace DomeLink.Command

/-- Where the sign of the focuser target stands. -/
def focusSignOffset : Nat := 17

/-- Checks a command frame and reads it. -/
def decode (frame : Bytes) : Outcome Command := do
  Frame.checkCommand frame
  let magnitude ← frame.decimalField 18 3
  let sign ← frame.byteAt focusSignOffset
  let focusTarget ← focusOfWire sign magnitude focusSignOffset
  let domeTarget ← azimuthOfTicks (← frame.decimalField 9 4)
  let dome ← Flags.ofField frame 13 1
  let shutter ← Flags.ofField frame 14 1
  let dropout ← Flags.ofField frame 15 1
  let focus ← Flags.ofField frame 16 1
  let aperture ← Flags.ofField frame 21 1
  let apertureSlot ← frame.decimalField 22 1
  let filter ← Flags.ofField frame 23 1
  let filterSlot ← frame.decimalField 24 1
  let eht ← EhtMode.ofCode (← frame.hexField 25 1).toUInt8
  let acqMirror ← Flags.ofField frame 26 1
  let misc ← Flags.ofField frame 27 1
  let domeFlopMin ← frame.decimalField 28 4
  let domeFlopMax ← frame.decimalField 32 4
  return {
    domeTarget, dome, shutter, dropout, focus, focusTarget, aperture, filter, eht, acqMirror, misc
    apertureSlot := apertureSlot.toUInt8
    filterSlot := filterSlot.toUInt8
    domeFlopMin := domeFlopMin.toUInt16
    domeFlopMax := domeFlopMax.toUInt16 }

/-- The fields of the command, in the order of the line. -/
def fields (c : Command) : Bytes :=
  Digits.writeDecimal 4 (ticksOfAzimuth c.domeTarget) ++ c.dome.toDigits 1 ++
    c.shutter.toDigits 1 ++ c.dropout.toDigits 1 ++ c.focus.toDigits 1 ++
    [(focusToWire c.focusTarget).1] ++
    Digits.writeDecimal 3 (focusToWire c.focusTarget).2 ++ c.aperture.toDigits 1 ++
    Digits.writeDecimal 1 c.apertureSlot.toUInt32 ++ c.filter.toDigits 1 ++
    Digits.writeDecimal 1 c.filterSlot.toUInt32 ++ Digits.writeHex 1 c.eht.code.toUInt32 ++
    c.acqMirror.toDigits 1 ++ c.misc.toDigits 1 ++ Digits.writeDecimal 4 c.domeFlopMin.toUInt32 ++
    Digits.writeDecimal 4 c.domeFlopMax.toUInt32

/-- The unused characters after the fields. -/
def padding : Bytes := List.replicate 17 '0'.toUInt8

/-- The command frame. -/
def encode (c : Command) : Bytes :=
  Checksum.terminate (Frame.commandHeader ++ Frame.commandAddress ++ c.fields ++ padding)

end DomeLink.Command
