import DomeLink.Command.Basic
import DomeLink.Flags.Json

/-!
# Commands as JSON

Model of the JSON form of `CommandBuffer` in `plc-protocol`.

A command is an object with the members that travel; the two words of bookkeeping are left out, and
a command that is read has none. Reading takes an object with all members in any order, or an array
with all of them in the order of `members`.
-/

namespace DomeLink.Command

/-- The members of a command, in the order in which they are written. -/
def members : List (JsonMember Command) := [
  .field "dome_target" .uint16 domeTarget fun v c => { c with domeTarget := v },
  .field "dome" .flags dome fun v c => { c with dome := v },
  .field "shutter" .flags shutter fun v c => { c with shutter := v },
  .field "dropout" .flags dropout fun v c => { c with dropout := v },
  .field "focus" .flags focus fun v c => { c with focus := v },
  .field "focus_target" .int16 focusTarget fun v c => { c with focusTarget := v },
  .field "aperture" .flags aperture fun v c => { c with aperture := v },
  .field "aperture_slot" .uint8 apertureSlot fun v c => { c with apertureSlot := v },
  .field "filter" .flags filter fun v c => { c with filter := v },
  .field "filter_slot" .uint8 filterSlot fun v c => { c with filterSlot := v },
  .field "eht" .eht eht fun v c => { c with eht := v },
  .field "acq_mirror" .flags acqMirror fun v c => { c with acqMirror := v },
  .field "misc" .flags misc fun v c => { c with misc := v },
  .field "dome_flop_min" .uint16 domeFlopMin fun v c => { c with domeFlopMin := v },
  .field "dome_flop_max" .uint16 domeFlopMax fun v c => { c with domeFlopMax := v }]

/-- Commands, with every member required. -/
def jsonForm : JsonForm Command := .record members .refused {}

end DomeLink.Command
