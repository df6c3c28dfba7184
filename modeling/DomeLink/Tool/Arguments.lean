import DomeLink.Command.Change
import DomeLink.CommandLine.Parser
import DomeLink.Number.Binary64
import DomeLink.Number.Decimal

/-!
# The arguments of the tool

Model of the arguments of `plc_tool` and of what its commands ask for (specification, section 12).

`Tool.grammar` describes the command line of the tool, and `Tool.Arguments.ofArgs` reads one. Values
are read by the same functions that test them.

An azimuth is given in degrees as a binary64 number, and rounded to tenths after it has been
multiplied by ten, so what counts as half a tenth is decided by that format. The last half tenth of
the circle is azimuth zero.
-/

namespace DomeLink.Tool

open CommandLine

/-! ## What can be asked for -/

/-- What is to be done with the hardware. -/
inductive Task
  /-- Changes to the command. -/
  | change (change : Change)
  /-- The dome to an azimuth in degrees. -/
  | domeGoto (degrees : Decimal) (guide : Bool)
  /-- A wheel to a slot, or to be initialised or reset, exactly one of which is to be asked for. -/
  | wheel (wheel : Wheel) (slot : Option UInt8) (init reset : Bool)
  | resetAcquisition
  | shutLightOut
  deriving DecidableEq, Repr

/-- What the tool is to do. -/
inductive Job
  /-- Show the status, as JSON or not. -/
  | status (json : Bool)
  /-- Show changes of the status, up to a number of statuses. -/
  | monitor (count : Nat)
  | perform (task : Task)
  deriving DecidableEq, Repr

/-- The arguments of the tool. -/
structure Arguments where
  /-- The configuration file. -/
  config : Option String
  port : Option String
  baud : Option UInt32
  /-- Use the simulated controller. -/
  mock : Bool
  /-- How many seconds to wait for the controller. -/
  timeout : Nat
  job : Job
  deriving DecidableEq, Repr

/-! ## Values -/

/-- The integer of a text, if it lies within the limits. -/
def integerIn? (low high : Int) (s : String) : Option Int :=
  (Decimal.integer? s.toList).filter fun n => low ≤ n && n ≤ high

/-- A byte. -/
def uint8? (s : String) : Option UInt8 := (integerIn? 0 255 s).map fun n => UInt8.ofNat n.toNat

/-- A word of 32 bits. -/
def uint32? (s : String) : Option UInt32 :=
  (integerIn? 0 4294967295 s).map fun n => UInt32.ofNat n.toNat

/-- A signed word of 16 bits. -/
def int16? (s : String) : Option Int16 := (integerIn? (-32768) 32767 s).map Int16.ofInt

/-- A natural number of 64 bits. -/
def count? (s : String) : Option Nat := (Decimal.natural? s.toList).filter (· < UInt64.size)

/-- Opening, closing or stopping. -/
def shutterAction? : String → Option ShutterAction
  | "open" => some .opening
  | "close" => some .closing
  | "stop" => some .stop
  | _ => none

/-- What to do with the mirror. -/
def mirrorAction? : String → Option MirrorAction
  | "view" => some .view
  | "measure" => some .measure
  | "reset" => some .reset
  | _ => none

/-- Open or closed. -/
def isOpen? : String → Option Bool
  | "open" => some true
  | "close" => some false
  | _ => none

/-- On or off. -/
def isOn? : String → Option Bool
  | "on" => some true
  | "off" => some false
  | _ => none

/-! ## Azimuths -/

/-- The number of decimal digits of a number. -/
def digitCount (n : Nat) : Nat := (Nat.toDigits 10 n).length

/-- The binary64 number nearest to `digits · 10 ^ exponent`, if that lies below `10 ^ 4`. What is
below `10 ^ -330` has no digit in the format. -/
def nearestOfDecimal? (digits : Nat) (exponent : Int) : Option Rat :=
  if digits = 0 then some 0
  else if 4 < digitCount digits + exponent then none
  else if digitCount digits + exponent < -330 then some 0
  else some (Binary64.nearest (digits * (10 : Rat) ^ exponent))

/-- The tenths of a degree of an azimuth on the circle. -/
def tenthsOfDegrees? : Decimal → Option UInt16
  | .finite negative digits exponent => do
    let x ← nearestOfDecimal? digits exponent
    if x < 360 ∧ (negative → x = 0) then
      some (UInt16.ofNat ((Binary64.roundHalfUp (Binary64.nearest (x * 10))).toNat % 3600))
    else none
  | _ => none

/-! ## The grammar -/

/-- The value of a text that a reader accepts. -/
def accepts {α : Type} (read : String → Option α) (s : String) : Bool := (read s).isSome

/-- The switches of all commands. -/
def globals : List Switch := [
  { name := "config", role := .value fun s => !s.isEmpty },
  { name := "port", role := .value fun _ => true },
  { name := "baud", role := .value (accepts uint32?) },
  { name := "mock", role := .flag },
  { name := "timeout", role := .value (accepts count?) },
  { name := "help", letter := some 'h', role := .help }]

/-- A command without arguments of its own. -/
def plain (name : String) : CommandGrammar := .mk name [] [] [] []

/-- A command that takes one value. -/
def withValue {α : Type} (name place : String) (read : String → Option α) : CommandGrammar :=
  .mk name [] [{ name := place, accepts := accepts read }] [] []

/-- A command for a wheel. -/
def wheelGrammar (name : String) : CommandGrammar :=
  .mk name [{ name := "init", role := .flag }, { name := "reset", role := .flag }]
    [{ name := "slot", required := false, accepts := accepts uint8? }]
    [("init", "slot"), ("init", "reset"), ("reset", "slot")] []

/-- The commands for the dome. -/
def domeGrammar : CommandGrammar :=
  .mk "dome" [] [] []
    [.mk "goto" [{ name := "guide", role := .flag }]
        [{ name := "azimuth", accepts := accepts Decimal.ofText? }] [] [],
      plain "left", plain "right", plain "stop"]

/-- The commands for the focuser. -/
def focusGrammar : CommandGrammar :=
  .mk "focus" [] [] []
    [.mk "goto" [] [{ name := "position", negatives := true, accepts := accepts int16? }] [] [],
      plain "out", plain "in", plain "stop", plain "reset"]

/-- The command line of the tool. -/
def grammar : CommandGrammar :=
  .mk "plc_tool" [{ name := "version", letter := some 'V', role := .help }] [] []
    [.mk "status" [{ name := "json", role := .flag }] [] [] [],
      .mk "monitor" [{ name := "count", letter := some 'c', role := .value (accepts count?) }]
        [] [] [],
      domeGrammar,
      withValue "shutter" "action" shutterAction?,
      withValue "dropout" "action" shutterAction?,
      focusGrammar,
      wheelGrammar "aperture",
      wheelGrammar "filter",
      withValue "eht" "mode" EhtMode.ofName?,
      withValue "acqmir" "action" mirrorAction?,
      withValue "instrument-shutter" "state" isOpen?,
      withValue "watchdog" "state" isOn?,
      plain "reset-acq",
      plain "safe"]

/-! ## Reading -/

/-- A flag was given. -/
def Level.flag (l : Level) (key : String) : Bool := (l.values.lookup key).isSome

/-- The value of a key. -/
def Level.value? {α : Type} (l : Level) (key : String) (read : String → Option α) : Option α :=
  (l.values.lookup key).bind read

/-- The wheel command of a level. -/
def wheelTask (w : Wheel) (l : Level) : Task :=
  .wheel w (Level.value? l "slot" uint8?) (Level.flag l "init") (Level.flag l "reset")

/-- The task of a command for the dome. -/
def domeTask? (l : Level) : Option Task :=
  match l.command with
  | "goto" =>
    (Level.value? l "azimuth" Decimal.ofText?).map fun d => .domeGoto d (Level.flag l "guide")
  | "left" => some (.change (.domeMove .left))
  | "right" => some (.change (.domeMove .right))
  | "stop" => some (.change (.domeMove .stop))
  | _ => none

/-- The task of a command for the focuser. -/
def focusTask? (l : Level) : Option Task :=
  match l.command with
  | "goto" => (Level.value? l "position" int16?).map fun p => .change (.focusGoto p)
  | "out" => some (.change (.focusMove .outward))
  | "in" => some (.change (.focusMove .inward))
  | "stop" => some (.change (.focusMove .stop))
  | "reset" => some (.change .focusReset)
  | _ => none

/-- The task of a command without subcommands. -/
def task? (l : Level) : Option Task :=
  match l.command with
  | "shutter" => (Level.value? l "action" shutterAction?).map fun a => .change (.shutter a)
  | "dropout" => (Level.value? l "action" shutterAction?).map fun a => .change (.dropout a)
  | "aperture" => some (wheelTask .aperture l)
  | "filter" => some (wheelTask .filter l)
  | "eht" => (Level.value? l "mode" EhtMode.ofName?).map fun m => .change (.eht m)
  | "acqmir" => (Level.value? l "action" mirrorAction?).map fun a => .change (.acqMirror a)
  | "instrument-shutter" =>
    (Level.value? l "state" isOpen?).map fun b => .change (.instrumentShutter b)
  | "watchdog" => (Level.value? l "state" isOn?).map fun b => .change (.watchdog b)
  | "reset-acq" => some .resetAcquisition
  | "safe" => some .shutLightOut
  | _ => none

/-- The job of the commands on the way. -/
def job? : List Level → Option Job
  | [l] =>
    match l.command with
    | "status" => some (.status (Level.flag l "json"))
    | "monitor" => some (.monitor ((Level.value? l "count" count?).getD 0))
    | _ => (task? l).map .perform
  | [group, l] =>
    match group.command with
    | "dome" => (domeTask? l).map .perform
    | "focus" => (focusTask? l).map .perform
    | _ => none
  | _ => none

/-- The arguments of a parsed command line. -/
def Arguments.ofLevels? (levels : List Level) : Option Arguments := do
  let job ← job? (levels.drop 1)
  return {
    config := globalValue? levels "config"
    port := globalValue? levels "port"
    baud := (globalValue? levels "baud").bind uint32?
    mock := (globalValue? levels "mock").isSome
    timeout := ((globalValue? levels "timeout").bind count?).getD 10
    job }

/-- Reads a command line. -/
def Arguments.ofArgs (args : List String) : Except Stop Arguments := do
  let levels ← parse globals grammar args
  match Arguments.ofLevels? levels with
  | some a => return a
  | none => throw .usage

end DomeLink.Tool
