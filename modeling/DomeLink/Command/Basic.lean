import DomeLink.Mechanism

/-!
# Commands

Model of `CommandBuffer`, `OneShot` and `Controlled` (`command` in `plc-protocol`; specification,
sections 3 and 10), with `one_shots`, `clear_one_shots` and `take_requested`, whose result nothing
uses.

`Command` holds everything that a command frame sets. Two words of bookkeeping go with it, which
never travel: `controlled` tells which fields a client has set, and `requested` which one-shot
actions a client has asked for since the last command was sent.

A one-shot bit is one that triggers a single action; `oneShots` collects those that are set and
`clearOneShots` clears them again.
-/

namespace DomeLink

/-- The flag table of `OneShot`. -/
abbrev OneShot.table : FlagTable :=
  { typeName := "OneShot", width := 8,
    names := [("FOCUS_RESET", 0x01), ("APERTURE_INIT", 0x02), ("APERTURE_RESET", 0x04),
      ("FILTER_INIT", 0x08), ("FILTER_RESET", 0x10), ("ACQ_MIRROR_RESET", 0x20),
      ("ACQ_DEVICE_RESET", 0x40)] }

/-- Command bits that trigger a single action. -/
abbrev OneShot := Flags OneShot.table

namespace OneShot

def focusReset : OneShot := ⟨0x01⟩
def apertureInit : OneShot := ⟨0x02⟩
def apertureReset : OneShot := ⟨0x04⟩
def filterInit : OneShot := ⟨0x08⟩
def filterReset : OneShot := ⟨0x10⟩
def acqMirrorReset : OneShot := ⟨0x20⟩
def acqDeviceReset : OneShot := ⟨0x40⟩

end OneShot

/-- The flag table of `Controlled`. -/
abbrev Controlled.table : FlagTable :=
  { typeName := "Controlled", width := 16,
    names := [("DOME_TARGET", 0x001), ("FOCUS_TARGET", 0x002), ("APERTURE_SLOT", 0x004),
      ("FILTER_SLOT", 0x008), ("EHT", 0x010), ("ACQ_MIRROR", 0x020),
      ("INSTRUMENT_SHUTTER", 0x040), ("DOME_FLOP", 0x080)] }

/-- Fields that a client has set. -/
abbrev Controlled := Flags Controlled.table

namespace Controlled

def domeTarget : Controlled := ⟨0x001⟩
def focusTarget : Controlled := ⟨0x002⟩
def apertureSlot : Controlled := ⟨0x004⟩
def filterSlot : Controlled := ⟨0x008⟩
def eht : Controlled := ⟨0x010⟩
def acqMirror : Controlled := ⟨0x020⟩
def instrumentShutter : Controlled := ⟨0x040⟩
def domeFlop : Controlled := ⟨0x080⟩

end Controlled

/-- What is asked of the hardware. -/
structure Command where
  /-- Tenths of a degree. -/
  domeTarget : UInt16 := 0
  dome : DomeCommand := ∅
  shutter : ShutterCommand := ∅
  dropout : DropoutCommand := ∅
  focus : FocusCommand := ∅
  focusTarget : Int16 := 0
  aperture : WheelCommand := ∅
  apertureSlot : UInt8 := 0
  filter : WheelCommand := ∅
  filterSlot : UInt8 := 0
  eht : EhtMode := .off
  acqMirror : AcqMirrorCommand := ∅
  misc : MiscCommand := ∅
  domeFlopMin : UInt16 := 0
  domeFlopMax : UInt16 := 0
  /-- The fields that a client has set. -/
  controlled : Controlled := ∅
  /-- The one-shot actions asked for and not yet sent. -/
  requested : OneShot := ∅
  deriving DecidableEq, Repr, Inhabited

namespace Command

/-- The one-shot bits that are set. -/
def oneShots (c : Command) : OneShot :=
  (∅ : OneShot)
    |>.assign OneShot.focusReset (c.focus.has FocusCommand.reset)
    |>.assign OneShot.apertureInit (c.aperture.has WheelCommand.init)
    |>.assign OneShot.apertureReset (c.aperture.has WheelCommand.reset)
    |>.assign OneShot.filterInit (c.filter.has WheelCommand.init)
    |>.assign OneShot.filterReset (c.filter.has WheelCommand.reset)
    |>.assign OneShot.acqMirrorReset (c.acqMirror.has AcqMirrorCommand.reset)
    |>.assign OneShot.acqDeviceReset (c.misc.has MiscCommand.acqDeviceReset)

/-- The word without the mask where the condition holds. -/
def eraseWhen {t : FlagTable} (x mask : Flags t) (on : Bool) : Flags t :=
  if on then x.erase mask else x

/-- Clears the given one-shot bits. -/
def clearOneShots (c : Command) (bits : OneShot) : Command :=
  { c with
    focus := eraseWhen c.focus FocusCommand.reset (bits.has OneShot.focusReset)
    aperture := eraseWhen (eraseWhen c.aperture WheelCommand.init (bits.has OneShot.apertureInit))
      WheelCommand.reset (bits.has OneShot.apertureReset)
    filter := eraseWhen (eraseWhen c.filter WheelCommand.init (bits.has OneShot.filterInit))
      WheelCommand.reset (bits.has OneShot.filterReset)
    acqMirror := eraseWhen c.acqMirror AcqMirrorCommand.reset (bits.has OneShot.acqMirrorReset)
    misc := eraseWhen c.misc MiscCommand.acqDeviceReset (bits.has OneShot.acqDeviceReset) }

/-- Forgets the one-shot actions asked for. -/
def forgetRequested (c : Command) : Command := { c with requested := ∅ }

end Command

end DomeLink
