import DomeLink.Flags.Field
import DomeLink.Status.Basic
import DomeLink.Wire.Frame

/-!
# Status replies

Model of `decode`, `encode` and `apply_changes` of `StatusSnapshot` (`status` in `plc-protocol`;
specification, sections 4.2 and 10).

`Status.decode` checks a status reply and reads its fields in the order of the line, so the first
bad field gives the fault. `Status.encode` writes the reply that a controller in that state sends:
quantities that are too large lose their leading digits, and flag words of one digit their high
four bits.

`Status.applyChanges` brings a known status up to date: it reads the whole new frame first, and then
takes over those fields whose characters differ from the previous frame.

Out of scope: changing a status in place. The focuser position, which stands in two fields, is read
once here; `Proofs/Machine/Decode` reads it at each of them.
-/

namespace DomeLink.Status

/-- The flags of a hexadecimal field. -/
def flagsAt {t : FlagTable} (frame : Bytes) (f : StatusField) : Outcome (Flags t) :=
  Flags.ofField frame f.offset f.width

/-- The byte of a hexadecimal field. -/
def byteAt (frame : Bytes) (f : StatusField) : Outcome UInt8 :=
  (·.toUInt8) <$> frame.hexField f.offset f.width

/-- The number of a decimal field. -/
def numberAt (frame : Bytes) (f : StatusField) : Outcome UInt32 :=
  frame.decimalField f.offset f.width

/-- The focuser position: the magnitude is read before the sign. -/
def focusAt (frame : Bytes) : Outcome Int16 := do
  let magnitude ← numberAt frame .focusPosition
  let sign ← frame.byteAt StatusField.focusSign.offset
  focusOfWire sign magnitude StatusField.focusSign.offset

/-- Checks a status reply and reads it. -/
def decode (frame : Bytes) : Outcome Status := do
  Frame.checkReply .status frame
  let domeAzimuth ← azimuthOfTicks (← numberAt frame .domePosition)
  let dome ← flagsAt frame .dome
  let shutter ← flagsAt frame .shutter
  let dropout ← flagsAt frame .dropout
  let aperture ← flagsAt frame .aperture
  let filter ← flagsAt frame .filter
  let acqMirror ← flagsAt frame .acqMirror
  let instrumentShutter ← flagsAt frame .instrumentShutter
  let focusPosition ← focusAt frame
  let focus ← flagsAt frame .focus
  let critical ← flagsAt frame .critical
  let eht ← EhtMode.ofCode (← byteAt frame .eht)
  let handset ← byteAt frame .handset
  let apertureSlot ← numberAt frame .apertureSlot
  let filterSlot ← numberAt frame .filterSlot
  let domeFlopMin ← numberAt frame .domeFlopMin
  let domeFlopMax ← numberAt frame .domeFlopMax
  let haPulses ← numberAt frame .haPulses
  let decPulses ← numberAt frame .decPulses
  return {
    domeAzimuth, dome, shutter, dropout, aperture, filter, acqMirror, instrumentShutter,
    focusPosition, focus, critical, eht, handset
    apertureSlot := apertureSlot.toUInt8
    filterSlot := filterSlot.toUInt8
    domeFlopMin := domeFlopMin.toUInt16
    domeFlopMax := domeFlopMax.toUInt16
    haPulses, decPulses }

/-- The fields of the reply, in the order of the line. -/
def fields (s : Status) : Bytes :=
  Digits.writeDecimal 4 (ticksOfAzimuth s.domeAzimuth) ++ s.dome.toDigits 1 ++
    s.shutter.toDigits 1 ++ s.dropout.toDigits 1 ++ s.aperture.toDigits 1 ++ s.filter.toDigits 1 ++
    s.acqMirror.toDigits 1 ++ s.instrumentShutter.toDigits 1 ++
    [(focusToWire s.focusPosition).1] ++
    Digits.writeDecimal 3 (focusToWire s.focusPosition).2 ++
    s.focus.toDigits 2 ++ s.critical.toDigits 1 ++
    Digits.writeHex 1 s.eht.code.toUInt32 ++ Digits.writeHex 2 s.handset.toUInt32 ++
    Digits.writeDecimal 1 s.apertureSlot.toUInt32 ++ Digits.writeDecimal 1 s.filterSlot.toUInt32 ++
    Digits.writeDecimal 4 s.domeFlopMin.toUInt32 ++ Digits.writeDecimal 4 s.domeFlopMax.toUInt32 ++
    Digits.writeDecimal 8 s.haPulses ++ Digits.writeDecimal 8 s.decPulses

/-- The end code of every status reply that succeeded. -/
def successCode : Bytes := .ascii ['0', '0']

/-- The unused characters after the fields. -/
def reserved : Bytes := List.replicate 21 '0'.toUInt8

/-- The reply of a controller in this state. -/
def encode (s : Status) : Bytes :=
  Checksum.terminate (Frame.statusHeader ++ successCode ++ s.fields ++ reserved)

/-- The fields whose characters differ between two frames, in the order of the line. A field that
the previous frame does not reach differs. -/
def changedFields (previous frame : Bytes) : List StatusField :=
  StatusField.all.filter fun f => f.raw? previous ≠ f.raw? frame

/-- The status with one field taken from another. -/
def copyField (source s : Status) : StatusField → Status
  | .domePosition => { s with domeAzimuth := source.domeAzimuth }
  | .dome => { s with dome := source.dome }
  | .shutter => { s with shutter := source.shutter }
  | .dropout => { s with dropout := source.dropout }
  | .aperture => { s with aperture := source.aperture }
  | .filter => { s with filter := source.filter }
  | .acqMirror => { s with acqMirror := source.acqMirror }
  | .instrumentShutter => { s with instrumentShutter := source.instrumentShutter }
  | .focusSign | .focusPosition => { s with focusPosition := source.focusPosition }
  | .focus => { s with focus := source.focus }
  | .critical => { s with critical := source.critical }
  | .eht => { s with eht := source.eht }
  | .handset => { s with handset := source.handset }
  | .apertureSlot => { s with apertureSlot := source.apertureSlot }
  | .filterSlot => { s with filterSlot := source.filterSlot }
  | .domeFlopMin => { s with domeFlopMin := source.domeFlopMin }
  | .domeFlopMax => { s with domeFlopMax := source.domeFlopMax }
  | .haPulses => { s with haPulses := source.haPulses }
  | .decPulses => { s with decPulses := source.decPulses }

/-- The status after a new frame, and the fields that changed from the previous frame. -/
def applyChanges (s : Status) (previous frame : Bytes) : Outcome (Status × List StatusField) := do
  let fresh ← decode frame
  let changed := changedFields previous frame
  return (changed.foldl (copyField fresh) s, changed)

@[simp] theorem length_fields (s : Status) : s.fields.length = 47 := by
  unfold fields
  repeat rw [List.length_append]
  repeat rw [Digits.length_writeDecimal]
  repeat rw [Digits.length_writeHex]
  repeat rw [Flags.length_toDigits]
  rfl

@[simp] theorem length_encode (s : Status) : s.encode.length = 79 := by
  simp [encode, Frame.statusHeader, successCode, reserved, Bytes.ascii]

end DomeLink.Status
