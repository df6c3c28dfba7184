import DomeLink.Wire.Assembler
import DomeLink.Wire.Frame

/-!
# Configuration

Model of `config` in `plc-driver` (specification, section 11.3): the settings with their defaults,
and `validate`.

What can be set about a link: the serial line, the timer periods, the capacity of the assembler and
the wheel slots that count as safe. The defaults are the factory settings of the controller.

`Config.check` accepts the settings that a link can run with. Its checks have an order, and the
first that fails gives the fault.

Out of scope: what a serial port makes of its settings, which are checked, read and written only;
and machines whose sizes are not words of 64 bits.
-/

namespace DomeLink

/-- The parity of the serial line. -/
inductive Parity
  | none
  | odd
  | even
  deriving DecidableEq, Repr, Inhabited

namespace Parity

/-- All parities. -/
def all : List Parity := [none, odd, even]

/-- The name of the parity. -/
def name : Parity → String
  | none => "none"
  | odd => "odd"
  | even => "even"

/-- The parity of a name, spelled exactly. -/
def ofName? (s : String) : Option Parity := all.find? fun p => p.name = s

end Parity

/-- Settings of the serial line. -/
structure SerialLine where
  /-- The device. -/
  port : String := "/dev/ttyS0"
  baudRate : UInt32 := 9600
  /-- Seven or eight. -/
  dataBits : UInt8 := 7
  parity : Parity := .even
  /-- One or two. -/
  stopBits : UInt8 := 2
  /-- How long one read waits, in milliseconds. -/
  readTimeoutMs : UInt64 := 100
  deriving DecidableEq, Repr, Inhabited

/-- Timer periods in milliseconds. -/
structure Timing where
  /-- How long to wait for a reply. -/
  responseTimeoutMs : UInt64 := 5000
  /-- The time between status requests. -/
  statusPollMs : UInt64 := 200
  /-- The time after which the command is sent again in any case. -/
  heartbeatMs : UInt64 := 60000
  deriving DecidableEq, Repr, Inhabited

namespace Timing

/-- The longest period: one day. -/
def maxMs : UInt64 := 86400000

/-- The longest of the periods. -/
def longest (t : Timing) : UInt64 := max (max t.responseTimeoutMs t.statusPollMs) t.heartbeatMs

/-- Some period is zero. -/
def hasZero (t : Timing) : Bool :=
  t.responseTimeoutMs = 0 || t.statusPollMs = 0 || t.heartbeatMs = 0

end Timing

/-- The wheel slots that shut the light out. -/
structure SafeSlots where
  aperture : UInt8 := 0
  filter : UInt8 := 0
  deriving DecidableEq, Repr, Inhabited

/-- Everything that can be set. -/
structure Config where
  serial : SerialLine := {}
  timing : Timing := {}
  /-- The capacity of the assembler in bytes. -/
  rxCapacity : UInt64 := UInt64.ofNat Assembler.defaultCapacity
  safeSlots : SafeSlots := {}
  deriving DecidableEq, Repr, Inhabited

/-- Why a link cannot run with a configuration. -/
inductive ConfigFault
  | dataBits (bits : UInt8)
  | stopBits (bits : UInt8)
  /-- The assembler cannot hold a status reply. -/
  | rxCapacity (capacity : UInt64)
  | zeroPeriod
  /-- The longest period is longer than a day. -/
  | longPeriod (longest : UInt64)
  | safeSlots
  deriving DecidableEq, Repr

/-- The text of the fault. -/
def ConfigFault.message : ConfigFault → String
  | .dataBits bits => s!"data_bits must be 7 or 8, got {bits.toNat}"
  | .stopBits bits => s!"stop_bits must be 1 or 2, got {bits.toNat}"
  | .rxCapacity capacity => s!"rx_capacity {capacity.toNat} is smaller than a status response"
  | .zeroPeriod => "timer periods must be non-zero"
  | .longPeriod longest =>
    "timer periods must be at most " ++ toString Timing.maxMs.toNat ++ s!" ms, got {longest.toNat}"
  | .safeSlots => "safe slots must be 0..=" ++ toString Quantity.wheelSlot.limit

namespace Config

/-- Accepts the settings that a link can run with. -/
def check (c : Config) : Except ConfigFault Unit := do
  unless c.serial.dataBits = 7 ∨ c.serial.dataBits = 8 do throw (.dataBits c.serial.dataBits)
  unless c.serial.stopBits = 1 ∨ c.serial.stopBits = 2 do throw (.stopBits c.serial.stopBits)
  if c.rxCapacity.toNat < Frame.statusReplyLength then throw (.rxCapacity c.rxCapacity)
  if c.timing.hasZero then throw .zeroPeriod
  if Timing.maxMs < c.timing.longest then throw (.longPeriod c.timing.longest)
  if Quantity.wheelSlot.limit < c.safeSlots.aperture.toNat ∨
      Quantity.wheelSlot.limit < c.safeSlots.filter.toNat then throw .safeSlots

end Config

end DomeLink
