import DomeLink.Flags.Json
import DomeLink.Status.Basic

/-!
# Statuses as JSON

Model of the JSON form of `StatusSnapshot` in `plc-protocol`.

A status is an object with all its members. Reading takes an object with all of them in any order,
or an array with all of them in the order of `members`.
-/

namespace DomeLink.Status

/-- The members of a status, in the order in which they are written. -/
def members : List (JsonMember Status) := [
  .field "dome_azimuth" .uint16 domeAzimuth fun v s => { s with domeAzimuth := v },
  .field "dome" .flags dome fun v s => { s with dome := v },
  .field "shutter" .flags shutter fun v s => { s with shutter := v },
  .field "dropout" .flags dropout fun v s => { s with dropout := v },
  .field "aperture" .flags aperture fun v s => { s with aperture := v },
  .field "filter" .flags filter fun v s => { s with filter := v },
  .field "acq_mirror" .flags acqMirror fun v s => { s with acqMirror := v },
  .field "instrument_shutter" .flags instrumentShutter fun v s => { s with instrumentShutter := v },
  .field "focus_position" .int16 focusPosition fun v s => { s with focusPosition := v },
  .field "focus" .flags focus fun v s => { s with focus := v },
  .field "critical" .flags critical fun v s => { s with critical := v },
  .field "eht" .eht eht fun v s => { s with eht := v },
  .field "handset" .uint8 handset fun v s => { s with handset := v },
  .field "aperture_slot" .uint8 apertureSlot fun v s => { s with apertureSlot := v },
  .field "filter_slot" .uint8 filterSlot fun v s => { s with filterSlot := v },
  .field "dome_flop_min" .uint16 domeFlopMin fun v s => { s with domeFlopMin := v },
  .field "dome_flop_max" .uint16 domeFlopMax fun v s => { s with domeFlopMax := v },
  .field "ha_pulses" .uint32 haPulses fun v s => { s with haPulses := v },
  .field "dec_pulses" .uint32 decPulses fun v s => { s with decPulses := v }]

/-- Statuses, with every member required. -/
def jsonForm : JsonForm Status := .record members .refused {}

end DomeLink.Status
