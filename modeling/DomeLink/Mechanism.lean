import DomeLink.Flags.Basic
import DomeLink.Wire.Fault

/-!
# The mechanisms behind the controller

Model of `fields` in `plc-protocol` (specification, sections 3 and 10), with `azimuth_from_ticks`
and `ticks_from_azimuth` of `status`.

The flags that each mechanism reports and takes, and the quantities that have a form of their own
on the line: the dome azimuth, the focuser position and the high-voltage mode.

Several mechanisms give the same bit different meanings, so each has its own flag table.

* The dome encoder counts down as the azimuth grows: `ticksOfAzimuth` and `azimuthOfTicks`.
* The focuser position is a sign character, `F` for a negative one and `0` for any other, before
  its magnitude: `focusToWire` and `focusOfWire`.

Out of scope: constants for flags that nothing sets or tests. Such a flag has its name and its mask
in the table only.
-/

namespace DomeLink

/-! ## Flags that the controller reports -/

/-- The flag table of `DomeStatus`. -/
abbrev DomeStatus.table : FlagTable :=
  { typeName := "DomeStatus", width := 8,
    names := [("MOVING_LEFT", 0x1), ("MOVING_RIGHT", 0x2), ("GUIDING", 0x4)] }

/-- Dome rotation. -/
abbrev DomeStatus := Flags DomeStatus.table

namespace DomeStatus

def movingLeft : DomeStatus := ⟨0x1⟩
def movingRight : DomeStatus := ⟨0x2⟩
def guiding : DomeStatus := ⟨0x4⟩

end DomeStatus

/-- The flag table of `ShutterStatus`. -/
abbrev ShutterStatus.table : FlagTable :=
  { typeName := "ShutterStatus", width := 8,
    names := [("OPEN", 0x1), ("CLOSED", 0x2), ("MOVING", 0x4)] }

/-- Main shutter. -/
abbrev ShutterStatus := Flags ShutterStatus.table

namespace ShutterStatus

def opened : ShutterStatus := ⟨0x1⟩
def closed : ShutterStatus := ⟨0x2⟩

end ShutterStatus

/-- The flag table of `DropoutStatus`. -/
abbrev DropoutStatus.table : FlagTable :=
  { typeName := "DropoutStatus", width := 8,
    names := [("OPEN", 0x1), ("CLOSED", 0x2), ("MOVING", 0x4)] }

/-- Dropout below the main shutter. -/
abbrev DropoutStatus := Flags DropoutStatus.table

namespace DropoutStatus

def opened : DropoutStatus := ⟨0x1⟩
def closed : DropoutStatus := ⟨0x2⟩

end DropoutStatus

/-- The flag table of `WheelStatus`. -/
abbrev WheelStatus.table : FlagTable :=
  { typeName := "WheelStatus", width := 8,
    names := [("INIT", 0x1), ("CENTERED", 0x2), ("MOVING", 0x4)] }

/-- Aperture or filter wheel. -/
abbrev WheelStatus := Flags WheelStatus.table

namespace WheelStatus

def initialised : WheelStatus := ⟨0x1⟩
def centered : WheelStatus := ⟨0x2⟩

end WheelStatus

/-- The flag table of `AcqMirrorStatus`. -/
abbrev AcqMirrorStatus.table : FlagTable :=
  { typeName := "AcqMirrorStatus", width := 8,
    names := [("VIEW", 0x1), ("MEASURE", 0x2), ("MOVING", 0x4)] }

/-- Acquisition mirror. -/
abbrev AcqMirrorStatus := Flags AcqMirrorStatus.table

namespace AcqMirrorStatus

def view : AcqMirrorStatus := ⟨0x1⟩
def measure : AcqMirrorStatus := ⟨0x2⟩

end AcqMirrorStatus

/-- The flag table of `InstrumentShutterStatus`. -/
abbrev InstrumentShutterStatus.table : FlagTable :=
  { typeName := "InstrumentShutterStatus", width := 8, names := [("OPEN", 0x1)] }

/-- Instrument shutter. -/
abbrev InstrumentShutterStatus := Flags InstrumentShutterStatus.table

namespace InstrumentShutterStatus

def opened : InstrumentShutterStatus := ⟨0x1⟩

end InstrumentShutterStatus

/-- The flag table of `FocusStatus`. -/
abbrev FocusStatus.table : FlagTable :=
  { typeName := "FocusStatus", width := 8,
    names := [("SLOT", 0x01), ("REF", 0x02), ("OUT", 0x04), ("IN", 0x08), ("MOVING", 0x10),
      ("INIT", 0x20), ("STALL", 0x40)] }

/-- Focuser; the only status word of two digits. -/
abbrev FocusStatus := Flags FocusStatus.table

namespace FocusStatus

def moving : FocusStatus := ⟨0x10⟩
def initialised : FocusStatus := ⟨0x20⟩

end FocusStatus

/-- The flag table of `CriticalFaults`. -/
abbrev CriticalFaults.table : FlagTable :=
  { typeName := "CriticalFaults", width := 8,
    names := [("POWER_FAIL", 0x1), ("WATCHDOG_TRIP", 0x2)] }

/-- Critical faults of the controller. -/
abbrev CriticalFaults := Flags CriticalFaults.table

/-- The flag table of `HandsetBits`. -/
abbrev HandsetBits.table : FlagTable :=
  { typeName := "HandsetBits", width := 8,
    names := [("NORTH", 0x01), ("SOUTH", 0x02), ("EAST", 0x04), ("WEST", 0x08), ("SLEW", 0x10),
      ("FOCUS_OUT", 0x20), ("FOCUS_IN", 0x40)] }

/-- Keys of the handset. -/
abbrev HandsetBits := Flags HandsetBits.table

/-! ## Flags that the controller takes -/

/-- The flag table of `DomeCommand`. -/
abbrev DomeCommand.table : FlagTable :=
  { typeName := "DomeCommand", width := 8,
    names := [("GUIDE", 0x1), ("MOVE_LEFT", 0x2), ("MOVE_RIGHT", 0x4), ("GOTO", 0x8)] }

/-- Dome request. -/
abbrev DomeCommand := Flags DomeCommand.table

namespace DomeCommand

def guide : DomeCommand := ⟨0x1⟩
def moveLeft : DomeCommand := ⟨0x2⟩
def moveRight : DomeCommand := ⟨0x4⟩
def goto : DomeCommand := ⟨0x8⟩

/-- The motions by hand. -/
def byHand : DomeCommand := moveLeft.insert moveRight

end DomeCommand

/-- The flag table of `ShutterCommand`. -/
abbrev ShutterCommand.table : FlagTable :=
  { typeName := "ShutterCommand", width := 8, names := [("OPEN", 0x1), ("CLOSE", 0x2)] }

/-- Main shutter request. -/
abbrev ShutterCommand := Flags ShutterCommand.table

namespace ShutterCommand

def opening : ShutterCommand := ⟨0x1⟩
def closing : ShutterCommand := ⟨0x2⟩

end ShutterCommand

/-- The flag table of `DropoutCommand`. -/
abbrev DropoutCommand.table : FlagTable :=
  { typeName := "DropoutCommand", width := 8, names := [("OPEN", 0x1), ("CLOSE", 0x2)] }

/-- Dropout request. -/
abbrev DropoutCommand := Flags DropoutCommand.table

namespace DropoutCommand

def opening : DropoutCommand := ⟨0x1⟩
def closing : DropoutCommand := ⟨0x2⟩

end DropoutCommand

/-- The flag table of `FocusCommand`. -/
abbrev FocusCommand.table : FlagTable :=
  { typeName := "FocusCommand", width := 8,
    names := [("GOTO", 0x1), ("MOVE_OUT", 0x2), ("MOVE_IN", 0x4), ("RESET", 0x8)] }

/-- Focuser request. -/
abbrev FocusCommand := Flags FocusCommand.table

namespace FocusCommand

def goto : FocusCommand := ⟨0x1⟩
def moveOut : FocusCommand := ⟨0x2⟩
def moveIn : FocusCommand := ⟨0x4⟩
def reset : FocusCommand := ⟨0x8⟩

/-- The motions by hand. -/
def byHand : FocusCommand := moveOut.insert moveIn

end FocusCommand

/-- The flag table of `WheelCommand`. -/
abbrev WheelCommand.table : FlagTable :=
  { typeName := "WheelCommand", width := 8,
    names := [("GO", 0x1), ("INIT", 0x2), ("RESET", 0x4)] }

/-- Aperture or filter wheel request. -/
abbrev WheelCommand := Flags WheelCommand.table

namespace WheelCommand

def go : WheelCommand := ⟨0x1⟩
def init : WheelCommand := ⟨0x2⟩
def reset : WheelCommand := ⟨0x4⟩

end WheelCommand

/-- The flag table of `AcqMirrorCommand`. -/
abbrev AcqMirrorCommand.table : FlagTable :=
  { typeName := "AcqMirrorCommand", width := 8,
    names := [("VIEW", 0x1), ("MEASURE", 0x2), ("RESET", 0x4)] }

/-- Acquisition mirror request. -/
abbrev AcqMirrorCommand := Flags AcqMirrorCommand.table

namespace AcqMirrorCommand

def view : AcqMirrorCommand := ⟨0x1⟩
def measure : AcqMirrorCommand := ⟨0x2⟩
def reset : AcqMirrorCommand := ⟨0x4⟩

end AcqMirrorCommand

/-- The flag table of `MiscCommand`. -/
abbrev MiscCommand.table : FlagTable :=
  { typeName := "MiscCommand", width := 8,
    names := [("INSTRUMENT_SHUTTER_OPEN", 0x1), ("WATCHDOG", 0x2), ("ACQ_DEVICE_RESET", 0x4)] }

/-- Requests that share one digit. -/
abbrev MiscCommand := Flags MiscCommand.table

namespace MiscCommand

def instrumentShutterOpen : MiscCommand := ⟨0x1⟩
def watchdog : MiscCommand := ⟨0x2⟩
def acqDeviceReset : MiscCommand := ⟨0x4⟩

end MiscCommand

/-! ## High voltage -/

/-- The mode of the photomultiplier supply. -/
inductive EhtMode
  | off
  | standby
  | on
  deriving DecidableEq, Repr, Inhabited

namespace EhtMode

/-- All modes, in the order of their codes. -/
def all : List EhtMode := [off, standby, on]

/-- The name of the mode. -/
def name : EhtMode → String
  | off => "off"
  | standby => "standby"
  | on => "on"

/-- The mode of a name, spelled exactly. -/
def ofName? (s : String) : Option EhtMode := all.find? fun m => m.name = s

/-- The digit of the mode. -/
def code : EhtMode → UInt8
  | off => 0
  | standby => 1
  | on => 2

/-- The mode of a digit. -/
def ofCode (c : UInt8) : Outcome EhtMode :=
  if c = 0 then .ok off
  else if c = 1 then .ok standby
  else if c = 2 then .ok on
  else .error (.outOfRange .ehtMode c.toNat)

end EhtMode

/-! ## Dome azimuth -/

/-- The greatest encoder count, and the greatest azimuth in tenths of a degree. -/
def domeTicksMax : UInt16 := 3599

/-- The azimuth at an encoder count. -/
def azimuthOfTicks (ticks : UInt32) : Outcome UInt16 := do
  Quantity.domeTicks.check ticks.toNat
  return domeTicksMax - ticks.toUInt16

/-- The encoder count at an azimuth; beyond the greatest azimuth it stays at zero. -/
def ticksOfAzimuth (azimuth : UInt16) : UInt32 := (domeTicksMax - min azimuth domeTicksMax).toUInt32

/-! ## Focuser position -/

/-- The sign character and the magnitude of a position. -/
def focusToWire (position : Int16) : UInt8 × UInt32 :=
  (if position < 0 then 'F'.toUInt8 else '0'.toUInt8, UInt32.ofNat position.toInt.natAbs)

/-- The position of a sign character, found at `offset`, and a magnitude. The magnitude is cut to
16 bits first; the least position has no negation. -/
def focusOfWire (sign : UInt8) (magnitude : UInt32) (offset : Nat) : Outcome Int16 :=
  let m := Int16.ofNat magnitude.toNat
  if sign = 'F'.toUInt8 then
    if m = Int16.minValue then .error (.overflow .negate) else .ok (-m)
  else if sign = '0'.toUInt8 then .ok m
  else .error (.digit offset sign)

end DomeLink
