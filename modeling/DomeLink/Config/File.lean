import DomeLink.Config.Basic
import DomeLink.Json.Form
import DomeLink.Json.Printer
import DomeLink.Json.Reader
import DomeLink.Text.Utf8

/-!
# Configuration files

Model of `load_from_file` and `save_to_file` (`config` in `plc-driver`; specification, section 11.3)
on the bytes of the file.

A configuration file is a JSON text in which everything may be left out: a member that is missing,
at any level, has its default. `Config.load` reads the bytes of a file and checks what it read;
`Config.save` writes all members, over several lines.

Out of scope: the file system, and the texts of its errors and of those of the JSON reader. A fault
says which of them it is.
-/

namespace DomeLink

namespace SerialLine

/-- The members of the serial settings. -/
def members : List (JsonMember SerialLine) := [
  .field "port" .string port fun v s => { s with port := v },
  .field "baud_rate" .uint32 baudRate fun v s => { s with baudRate := v },
  .field "data_bits" .uint8 dataBits fun v s => { s with dataBits := v },
  .field "parity" (.choice Parity.name Parity.ofName?) parity fun v s => { s with parity := v },
  .field "stop_bits" .uint8 stopBits fun v s => { s with stopBits := v },
  .field "read_timeout_ms" .uint64 readTimeoutMs fun v s => { s with readTimeoutMs := v }]

/-- Serial settings, with every member optional. -/
def jsonForm : JsonForm SerialLine := .record members .kept {}

end SerialLine

namespace Timing

/-- The members of the timer periods. -/
def members : List (JsonMember Timing) := [
  .field "response_timeout_ms" .uint64 responseTimeoutMs
    fun v t => { t with responseTimeoutMs := v },
  .field "status_poll_ms" .uint64 statusPollMs fun v t => { t with statusPollMs := v },
  .field "heartbeat_ms" .uint64 heartbeatMs fun v t => { t with heartbeatMs := v }]

/-- Timer periods, with every member optional. -/
def jsonForm : JsonForm Timing := .record members .kept {}

end Timing

namespace SafeSlots

/-- The members of the safe slots. -/
def members : List (JsonMember SafeSlots) := [
  .field "aperture" .uint8 aperture fun v s => { s with aperture := v },
  .field "filter" .uint8 filter fun v s => { s with filter := v }]

/-- Safe slots, with every member optional. -/
def jsonForm : JsonForm SafeSlots := .record members .kept {}

end SafeSlots

namespace Config

/-- The members of a configuration. -/
def members : List (JsonMember Config) := [
  .field "serial" SerialLine.jsonForm serial fun v c => { c with serial := v },
  .field "timing" Timing.jsonForm timing fun v c => { c with timing := v },
  .field "rx_capacity" .uint64 rxCapacity fun v c => { c with rxCapacity := v },
  .field "safe_slots" SafeSlots.jsonForm safeSlots fun v c => { c with safeSlots := v }]

/-- Configurations, with every member optional. -/
def jsonForm : JsonForm Config := .record members .kept {}

/-- Why a file gives no configuration. -/
inductive LoadFault
  /-- The file holds no text. -/
  | encoding
  /-- The text is no JSON, or not that of a configuration. -/
  | json
  | config (fault : ConfigFault)
  deriving DecidableEq, Repr

/-- The configuration of a text. -/
def ofText? (text : List Char) : Option Config := (Json.readChars? text).bind jsonForm.ofJson?

/-- The checked configuration of a text. -/
def ofText (text : List Char) : Except LoadFault Config :=
  match ofText? text with
  | none => .error .json
  | some c => (c.check.mapError .config).map fun _ => c

/-- The checked configuration of a file. -/
def load (file : Bytes) : Except LoadFault Config :=
  match Utf8.decode? file with
  | none => .error .encoding
  | some text => ofText text

/-- The text of the file that holds the configuration. -/
def save (c : Config) : String := (jsonForm.toJson c).indented

end Config

end DomeLink
