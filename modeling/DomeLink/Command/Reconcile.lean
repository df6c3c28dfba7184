import DomeLink.Command.Basic
import DomeLink.Status.Basic

/-!
# Commands and the reported status

Model of `seed_from_status` and `confirm_from_status` of `CommandBuffer` (`command` in
`plc-protocol`; specification, sections 4.2, 4.3 and 10).

Two ways in which a status changes the command. `seed` fills in, from the first status, every field
that no client has set, so that the first command asks for nothing new. `confirm` takes back those
shutter and dropout requests that the status reports as done.
-/

namespace DomeLink.Command

/-- No client has set the field. -/
def isFree (c : Command) (field : Controlled) : Bool := !c.controlled.meets field

/-- The mirror request for the reported mirror position: viewing wins over measuring. -/
def mirrorFor (current : AcqMirrorCommand) (status : AcqMirrorStatus) : AcqMirrorCommand :=
  let still := current.erase (AcqMirrorCommand.view.insert AcqMirrorCommand.measure)
  if status.has AcqMirrorStatus.view then still.insert AcqMirrorCommand.view
  else if status.has AcqMirrorStatus.measure then still.insert AcqMirrorCommand.measure
  else still

/-- Takes every field that no client has set from the status. -/
def seed (c : Command) (s : Status) : Command :=
  { c with
    domeTarget := if c.isFree Controlled.domeTarget then s.domeAzimuth else c.domeTarget
    focusTarget := if c.isFree Controlled.focusTarget then s.focusPosition else c.focusTarget
    apertureSlot := if c.isFree Controlled.apertureSlot then s.apertureSlot else c.apertureSlot
    filterSlot := if c.isFree Controlled.filterSlot then s.filterSlot else c.filterSlot
    eht := if c.isFree Controlled.eht then s.eht else c.eht
    acqMirror :=
      if c.isFree Controlled.acqMirror then mirrorFor c.acqMirror s.acqMirror else c.acqMirror
    misc :=
      if c.isFree Controlled.instrumentShutter then
        c.misc.assign MiscCommand.instrumentShutterOpen
          (s.instrumentShutter.has InstrumentShutterStatus.opened)
      else c.misc
    domeFlopMin := if c.isFree Controlled.domeFlop then s.domeFlopMin else c.domeFlopMin
    domeFlopMax := if c.isFree Controlled.domeFlop then s.domeFlopMax else c.domeFlopMax }

/-- Takes back the shutter and dropout requests that the status reports as done. -/
def confirm (c : Command) (s : Status) : Command :=
  { c with
    shutter :=
      eraseWhen (eraseWhen c.shutter ShutterCommand.opening (s.shutter.has ShutterStatus.opened))
        ShutterCommand.closing (s.shutter.has ShutterStatus.closed)
    dropout :=
      eraseWhen (eraseWhen c.dropout DropoutCommand.opening (s.dropout.has DropoutStatus.opened))
        DropoutCommand.closing (s.dropout.has DropoutStatus.closed) }

/-- The status takes back a request. -/
def isConfirmedBy (c : Command) (s : Status) : Bool := c.confirm s ≠ c

end DomeLink.Command
