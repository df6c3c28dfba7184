import DomeLink.Config.File
import DomeLink.Connection.Client
import DomeLink.Json.Printer
import DomeLink.Status.Json
import DomeLink.Tool.Arguments

/-!
# Runs of the tool

Model of `plc_tool` on the simulated controller (specification, section 12): its configuration, its
waits, its commands and what it prints.

`Tool.run` says what the tool prints and how it ends, given its arguments and the files that it may
read. It opens a connection, waits until the controller answers and does its job; a command is
followed by two statuses, so that the one that is shown comes after the exchange of the command.

There is no serial device here: without the simulated controller the port does not open.

Out of scope: serial ports, log lines, all but the first line of the error output, and `monitor`
without a count, which never ends. The session does not end while the tool waits, so what it would
say then is left out as well.
-/

namespace DomeLink.Tool

open CommandLine

/-- Why a run fails. -/
inductive Failure
  /-- The configuration file does not load. -/
  | load (path : String)
  | config (fault : ConfigFault)
  /-- The serial port does not open. -/
  | port (name : String)
  | noResponse
  | noStatus
  | azimuth
  | wheelAction
  | client (fault : ClientFault)
  deriving DecidableEq, Repr

/-- The text of the failure. -/
def Failure.message : Failure → String
  | .load path => s!"Failed to load {path}"
  | .config fault => (ClientFault.config fault).message
  | .port name => s!"Failed to open {name}"
  | .noResponse => "No response from PLC"
  | .noStatus => "Timed out waiting for status"
  | .azimuth => "Azimuth must be in 0..360 degrees"
  | .wheelAction => "Give exactly one of a slot, --init or --reset"
  | .client fault => fault.message

/-- How a run ends, and what it prints. -/
structure Report where
  exit : Nat
  output : List String := []
  /-- The first line of the error output. -/
  errors : Option String := none
  deriving DecidableEq, Repr

/-! ## Waiting -/

/-- The milliseconds of seconds. -/
def msOfSeconds (s : Nat) : Nat := s * 1000

/-- Waits until the controller has answered for the first time; the marks of what happened until
then are taken. -/
def waitComms (c : Connection Simulator) (timeout : Nat) : Except Failure (Connection Simulator) :=
  let r := c.waitUntil (fun c => c.board.commsOk) (c.now + msOfSeconds timeout)
  if r.2 then .ok r.1.takeStatusAvailable.1.takeCommsChanged.1 else .error .noResponse

/-- Waits for the next status. -/
def nextStatus (c : Connection Simulator) (timeout : Nat) :
    Except Failure (Connection Simulator × Status) :=
  match c.waitStatus (c.now + msOfSeconds timeout) with
  | (c, some s) => .ok (c, s)
  | (_, none) => .error .noStatus

/-! ## Jobs -/

/-- The lines that show a status. -/
def statusLines (s : Status) : List String :=
  [s!"Dome azimuth:       {s.azimuthDegrees} deg ({s.dome.label})",
    s!"Shutter:            {s.shutter.label}",
    s!"Dropout:            {s.dropout.label}",
    s!"Aperture wheel:     slot {s.apertureSlot.toNat} ({s.aperture.label})",
    s!"Filter wheel:       slot {s.filterSlot.toNat} ({s.filter.label})",
    s!"Acquisition mirror: {s.acqMirror.label}",
    s!"Instrument shutter: {s.instrumentShutter.label}",
    s!"Focus:              {s.focusPosition.toInt} ({s.focus.label})",
    s!"EHT:                {s.eht.name}",
    s!"Handset:            {s.handsetBits.label}",
    s!"Dome flop:          {s.domeFlopMin.toNat}..{s.domeFlopMax.toNat}",
    s!"Encoders:           HA {s.haPulses.toNat} Dec {s.decPulses.toNat}"] ++
  if s.hasCriticalFault then [s!"CRITICAL:           {s.critical.label}"] else []

/-- The lines of a JSON text. -/
def jsonLines (s : Status) : List String :=
  (Text.splitAt '\n' (Status.jsonForm.toJson s).indented.toList).map String.ofList

/-- The changes that a task asks for. -/
def Task.changes (safe : SafeSlots) : Task → Except Failure (List Change)
  | .change c => .ok [c]
  | .domeGoto degrees guide =>
    match tenthsOfDegrees? degrees with
    | some tenths => .ok [.domeTarget tenths guide]
    | none => .error .azimuth
  | .wheel w (some slot) false false => .ok [.wheel w (.goto slot)]
  | .wheel w none true false => .ok [.wheel w .init]
  | .wheel w none false true => .ok [.wheel w .reset]
  | .wheel _ _ _ _ => .error .wheelAction
  | .resetAcquisition => .ok Change.resetAcquisition
  | .shutLightOut => .ok (Change.shutLightOut safe.aperture safe.filter)

/-- The lines that tell of handset changes. -/
def handsetLines (calls : List HandsetCall) : List String :=
  calls.map fun h =>
    let bits (b : UInt8) : HandsetBits := Flags.ofNat b.toNat
    s!"Handset {(bits h.old).label} -> {(bits h.new).label}"

/-- What is told with a status, given the last one that was shown. -/
def newsLines (c : Connection Simulator) (last : Status) : List String :=
  handsetLines c.board.calls ++
    (if c.board.commsChanged then [s!"Comms OK: {c.board.commsOk}"] else []) ++
    if c.board.status = last then [] else statusLines c.board.status ++ [""]

/-- Follows the given number of statuses. No timer runs longer than a day, so a status that does not
come within a day and a bit does not come. -/
def follow (c : Connection Simulator) (last : Status) : Nat → List String
  | 0 => []
  | count + 1 =>
    let (c, isNew) := c.waitUntil (fun c => c.board.statusAvailable)
      (c.now + Timing.maxMs.toNat + 1)
    if isNew then
      let next := { c with board := { c.board with calls := [] } }
      newsLines c last ++
        follow next.takeStatusAvailable.1.takeCommsChanged.1 c.board.status count
    else []

/-- Does a job over a connection, and says what is printed. -/
def Job.run (c : Connection Simulator) (timeout : Nat) : Job → Except Failure (List String)
  | .status json => do
    let (_, s) ← nextStatus c timeout
    return if json then jsonLines s else statusLines s
  | .monitor count => return follow (c.listen { tag := "" }) c.board.status count
  | .perform task => do
    let changes ← task.changes c.safeSlots
    let (c, result) := c.request changes
    match result with
    | .error fault => throw (.client fault)
    | .ok () =>
      let (c, s) ← nextStatus c timeout
      let _ ← nextStatus c timeout
      return statusLines s

/-! ## Runs -/

/-- The configuration that the arguments ask for. -/
def Arguments.loadConfig (a : Arguments) (file : String → Option Bytes) :
    Except Failure Config := do
  let c ←
    match a.config with
    | none => pure {}
    | some path =>
      match file path with
      | none => throw (.load path)
      | some bytes => (Config.load bytes).mapError fun _ => .load path
  let c := { c with serial := { c.serial with
    port := a.port.getD c.serial.port
    baudRate := a.baud.getD c.serial.baudRate } }
  c.check.mapError .config
  return c

/-- Carries out the arguments and says what is printed. -/
def Arguments.run (a : Arguments) (file : String → Option Bytes) :
    Except Failure (List String) := do
  let config ← a.loadConfig file
  unless a.mock do throw (.port config.serial.port)
  let c ← (Connection.openTo config ({} : Simulator)).mapError .config
  let c ← waitComms c a.timeout
  a.job.run c a.timeout

/-- The first line of a text that is printed with a line end after it. A line ends before a line
feed, or before a carriage return with a line feed. -/
def firstLine (s : String) : String :=
  let line := s.toList.takeWhile (· ≠ '\n')
  String.ofList (if line.getLast? = some '\r' then line.dropLast else line)

/-- Runs the tool. Its explanations are not part of the report. -/
def run (file : String → Option Bytes) (args : List String) : Report :=
  match Arguments.ofArgs args with
  | .error .usage => { exit := 2 }
  | .error .help => { exit := 0 }
  | .ok a =>
    match a.run file with
    | .ok lines => { exit := 0, output := lines }
    | .error e => { exit := 1, errors := some (firstLine ("Error: " ++ e.message)) }

end DomeLink.Tool
