import DomeLink.Mechanism

/-!
# The status of the controller

Model of `StatusSnapshot` (`status` in `plc-protocol`; specification, section 3) and of
`StatusField` with `range` in `layout` (specification, section 10).

`Status` is what one status reply says. `StatusField` names the fields of the reply in the order in
which they stand on the line, with the place of each; the focuser position is the one quantity that
takes two of them.

Out of scope: the azimuth in degrees as a floating-point number. Only its text with one decimal
place is used.
-/

namespace DomeLink

/-- The state of the hardware as the controller reports it. -/
structure Status where
  /-- Tenths of a degree. -/
  domeAzimuth : UInt16 := 0
  dome : DomeStatus := ∅
  shutter : ShutterStatus := ∅
  dropout : DropoutStatus := ∅
  aperture : WheelStatus := ∅
  filter : WheelStatus := ∅
  acqMirror : AcqMirrorStatus := ∅
  instrumentShutter : InstrumentShutterStatus := ∅
  focusPosition : Int16 := 0
  focus : FocusStatus := ∅
  critical : CriticalFaults := ∅
  eht : EhtMode := .off
  /-- The raw byte of the handset. -/
  handset : UInt8 := 0
  apertureSlot : UInt8 := 0
  filterSlot : UInt8 := 0
  domeFlopMin : UInt16 := 0
  domeFlopMax : UInt16 := 0
  /-- Pulses of the hour-angle encoder. -/
  haPulses : UInt32 := 0
  /-- Pulses of the declination encoder. -/
  decPulses : UInt32 := 0
  deriving DecidableEq, Repr, Inhabited

namespace Status

/-- The keys that the handset byte stands for. -/
def handsetBits (s : Status) : HandsetBits := Flags.ofNat s.handset.toNat

/-- The controller reports a critical fault. -/
def hasCriticalFault (s : Status) : Bool := !s.critical.isEmpty

/-- The dome azimuth in degrees, with one decimal place. -/
def azimuthDegrees (s : Status) : String := Text.tenths s.domeAzimuth.toNat

end Status

/-- A field of the status reply. -/
inductive StatusField
  | domePosition
  | dome
  | shutter
  | dropout
  | aperture
  | filter
  | acqMirror
  | instrumentShutter
  | focusSign
  | focusPosition
  | focus
  | critical
  | eht
  | handset
  | apertureSlot
  | filterSlot
  | domeFlopMin
  | domeFlopMax
  | haPulses
  | decPulses
  deriving DecidableEq, Repr

namespace StatusField

/-- All fields, in the order of the line. -/
def all : List StatusField :=
  [domePosition, dome, shutter, dropout, aperture, filter, acqMirror, instrumentShutter, focusSign,
    focusPosition, focus, critical, eht, handset, apertureSlot, filterSlot, domeFlopMin,
    domeFlopMax, haPulses, decPulses]

/-- The name of the field. -/
def name : StatusField → String
  | domePosition => "dome_position"
  | dome => "dome"
  | shutter => "shutter"
  | dropout => "dropout"
  | aperture => "aperture"
  | filter => "filter"
  | acqMirror => "acq_mirror"
  | instrumentShutter => "instrument_shutter"
  | focusSign => "focus_sign"
  | focusPosition => "focus_position"
  | focus => "focus"
  | critical => "critical"
  | eht => "eht"
  | handset => "handset"
  | apertureSlot => "aperture_slot"
  | filterSlot => "filter_slot"
  | domeFlopMin => "dome_flop_min"
  | domeFlopMax => "dome_flop_max"
  | haPulses => "ha_pulses"
  | decPulses => "dec_pulses"

/-- Where the field starts in the frame. -/
def offset : StatusField → Nat
  | domePosition => 7
  | dome => 11
  | shutter => 12
  | dropout => 13
  | aperture => 14
  | filter => 15
  | acqMirror => 16
  | instrumentShutter => 17
  | focusSign => 18
  | focusPosition => 19
  | focus => 22
  | critical => 24
  | eht => 25
  | handset => 26
  | apertureSlot => 28
  | filterSlot => 29
  | domeFlopMin => 30
  | domeFlopMax => 34
  | haPulses => 38
  | decPulses => 46

/-- How many characters the field has. -/
def width : StatusField → Nat
  | domePosition | domeFlopMin | domeFlopMax => 4
  | haPulses | decPulses => 8
  | focusPosition => 3
  | focus | handset => 2
  | _ => 1

/-- The characters of the field in a frame. -/
def raw? (f : StatusField) (frame : Bytes) : Option Bytes := frame.slice? f.offset f.width

theorem mem_all (f : StatusField) : f ∈ all := by cases f <;> decide

end StatusField

end DomeLink
