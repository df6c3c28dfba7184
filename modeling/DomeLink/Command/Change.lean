import DomeLink.Command.Basic

/-!
# Changes to a command

Model of the mutators of `CommandBuffer` (`command` in `plc-protocol`; specification, sections 6 and
12), and of the two actions of `handle` in `plc-driver` that bundle several of them.

A `Change` is what a client asks for. `Command.change` makes it, or gives the fault of the value
that is out of range; `Command.changeAll` makes several or none. Each change touches its own
mechanism alone:

* requests that exclude each other replace each other (`GOTO` and manual motion, `OPEN` and
  `CLOSE`, `VIEW` and `MEASURE`);
* a change that sets a target takes control of it, which `controlled` notes;
* a one-shot action is also noted in `requested`.

Out of scope: changes by any other function of a command. The mutators are all that a handle offers.
-/

namespace DomeLink

/-- What to do with the main shutter or the dropout. -/
inductive ShutterAction
  | opening
  | closing
  | stop
  deriving DecidableEq, Repr

/-- Manual rotation of the dome. -/
inductive DomeMotion
  | stop
  | left
  | right
  deriving DecidableEq, Repr

/-- Manual motion of the focuser. -/
inductive FocusMotion
  | stop
  | outward
  | inward
  deriving DecidableEq, Repr

/-- What to do with the acquisition mirror. -/
inductive MirrorAction
  /-- Into the beam, which then feeds the acquisition camera. -/
  | view
  /-- Out of the beam, which then feeds the photometer. -/
  | measure
  | reset
  deriving DecidableEq, Repr

/-- The two wheels. -/
inductive Wheel
  | aperture
  | filter
  deriving DecidableEq, Repr

/-- What to do with a wheel. -/
inductive WheelAction
  | goto (slot : UInt8)
  | init
  | reset
  deriving DecidableEq, Repr

/-- One change to a command. -/
inductive Change
  | watchdog (alive : Bool)
  | domeTarget (azimuth : UInt16) (guide : Bool)
  | domeMove (motion : DomeMotion)
  | shutter (action : ShutterAction)
  | dropout (action : ShutterAction)
  | focusGoto (position : Int16)
  | focusMove (motion : FocusMotion)
  | focusReset
  | instrumentShutter (isOpen : Bool)
  | acqMirror (action : MirrorAction)
  | eht (mode : EhtMode)
  | wheel (wheel : Wheel) (action : WheelAction)
  | domeFlop (low high : UInt16)
  | acqDeviceReset
  deriving DecidableEq, Repr

namespace Command

/-- Notes that a client has set a field. -/
def control (c : Command) (bits : Controlled) : Command :=
  { c with controlled := c.controlled.insert bits }

/-- Notes that a client has asked for a one-shot action. -/
def request (c : Command) (bits : OneShot) : Command :=
  { c with requested := c.requested.insert bits }

/-- Sends the dome to an azimuth, and keeps it following if it is to guide. -/
def setDomeTarget (c : Command) (azimuth : UInt16) (guide : Bool) : Command :=
  { c with
    domeTarget := azimuth
    dome :=
      ((c.dome.erase DomeCommand.byHand).insert DomeCommand.goto).assign DomeCommand.guide guide }
  |>.control Controlled.domeTarget

/-- Rotates the dome by hand, or stops it altogether. -/
def setDomeMove (c : Command) (motion : DomeMotion) : Command :=
  let still := c.dome.erase (DomeCommand.byHand.insert DomeCommand.goto)
  { c with
    dome := match motion with
      | .stop => still.erase DomeCommand.guide
      | .left => still.insert DomeCommand.moveLeft
      | .right => still.insert DomeCommand.moveRight }

/-- Opens, closes or stops the main shutter. -/
def setShutter (c : Command) (action : ShutterAction) : Command :=
  { c with
    shutter := match action with
      | .opening => ShutterCommand.opening
      | .closing => ShutterCommand.closing
      | .stop => ∅ }

/-- Opens, closes or stops the dropout. -/
def setDropout (c : Command) (action : ShutterAction) : Command :=
  { c with
    dropout := match action with
      | .opening => DropoutCommand.opening
      | .closing => DropoutCommand.closing
      | .stop => ∅ }

/-- Drives the focuser to a position. -/
def setFocusTarget (c : Command) (position : Int16) : Command :=
  { c with
    focusTarget := position
    focus := (c.focus.erase FocusCommand.byHand).insert FocusCommand.goto }
  |>.control Controlled.focusTarget

/-- Moves the focuser by hand, or stops it. -/
def setFocusMove (c : Command) (motion : FocusMotion) : Command :=
  let still := c.focus.erase (FocusCommand.goto.insert FocusCommand.byHand)
  { c with
    focus := match motion with
      | .stop => still
      | .outward => still.insert FocusCommand.moveOut
      | .inward => still.insert FocusCommand.moveIn }

/-- Moves the acquisition mirror, or resets it. -/
def setAcqMirror (c : Command) : MirrorAction → Command
  | .view =>
    { c with
      acqMirror := (c.acqMirror.erase AcqMirrorCommand.measure).insert AcqMirrorCommand.view }
    |>.control Controlled.acqMirror
  | .measure =>
    { c with
      acqMirror := (c.acqMirror.erase AcqMirrorCommand.view).insert AcqMirrorCommand.measure }
    |>.control Controlled.acqMirror
  | .reset =>
    { c with acqMirror := c.acqMirror.insert AcqMirrorCommand.reset }
    |>.request OneShot.acqMirrorReset

/-- Turns a wheel to a slot, or initialises or resets it. -/
def setWheel (c : Command) : Wheel → WheelAction → Command
  | .aperture, .goto slot =>
    { c with aperture := c.aperture.insert WheelCommand.go, apertureSlot := slot }
    |>.control Controlled.apertureSlot
  | .aperture, .init =>
    { c with aperture := c.aperture.insert WheelCommand.init }
    |>.request OneShot.apertureInit
  | .aperture, .reset =>
    { c with aperture := c.aperture.insert WheelCommand.reset }
    |>.request OneShot.apertureReset
  | .filter, .goto slot =>
    { c with filter := c.filter.insert WheelCommand.go, filterSlot := slot }
    |>.control Controlled.filterSlot
  | .filter, .init =>
    { c with filter := c.filter.insert WheelCommand.init }
    |>.request OneShot.filterInit
  | .filter, .reset =>
    { c with filter := c.filter.insert WheelCommand.reset }
    |>.request OneShot.filterReset

end Command

/-- Accepts a change whose values are within their limits. -/
def Change.check : Change → Outcome Unit
  | .domeTarget azimuth _ => Quantity.domeAzimuth.check azimuth.toNat
  | .focusGoto position => Quantity.focusPosition.check position.toInt
  | .wheel _ (.goto slot) => Quantity.wheelSlot.check slot.toNat
  | .domeFlop low high => do
    Quantity.domeFlopMin.check low.toNat
    Quantity.domeFlopMax.check high.toNat
  | _ => .ok ()

namespace Command

/-- Makes a change whose values have been checked. -/
def make (c : Command) : Change → Command
  | .watchdog alive => { c with misc := c.misc.assign MiscCommand.watchdog alive }
  | .domeTarget azimuth guide => c.setDomeTarget azimuth guide
  | .domeMove motion => c.setDomeMove motion
  | .shutter action => c.setShutter action
  | .dropout action => c.setDropout action
  | .focusGoto position => c.setFocusTarget position
  | .focusMove motion => c.setFocusMove motion
  | .focusReset =>
    { c with focus := c.focus.insert FocusCommand.reset }
    |>.request OneShot.focusReset
  | .instrumentShutter isOpen =>
    { c with misc := c.misc.assign MiscCommand.instrumentShutterOpen isOpen }
    |>.control Controlled.instrumentShutter
  | .acqMirror action => c.setAcqMirror action
  | .eht mode => { c with eht := mode } |>.control Controlled.eht
  | .wheel wheel action => c.setWheel wheel action
  | .domeFlop low high =>
    { c with domeFlopMin := low, domeFlopMax := high }
    |>.control Controlled.domeFlop
  | .acqDeviceReset =>
    { c with misc := c.misc.insert MiscCommand.acqDeviceReset }
    |>.request OneShot.acqDeviceReset

/-- Makes a change, or gives the fault of its value. -/
def change (c : Command) (m : Change) : Outcome Command := do
  m.check
  return c.make m

/-- Makes the changes one after the other, or none of them if one is at fault. -/
def changeAll (c : Command) (ms : List Change) : Outcome Command := ms.foldlM change c

end Command

namespace Change

/-- Resets the acquisition device together with its mirror and both wheels. -/
def resetAcquisition : List Change :=
  [.acqDeviceReset, .acqMirror .reset, .wheel .aperture .reset, .wheel .filter .reset]

/-- Shuts the light out: instrument shutter closed, both wheels on the given slots, mirror in the
beam. -/
def shutLightOut (apertureSlot filterSlot : UInt8) : List Change :=
  [.instrumentShutter false, .wheel .aperture (.goto apertureSlot),
    .wheel .filter (.goto filterSlot), .acqMirror .view]

end Change

end DomeLink
