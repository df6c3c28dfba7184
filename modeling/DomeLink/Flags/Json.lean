import DomeLink.Flags.Text
import DomeLink.Json.Form
import DomeLink.Mechanism

/-!
# Flags and modes as JSON

Model of the JSON forms of the types in `fields` of `plc-protocol`.

A flag word is written as its text, a mode as its name.
-/

namespace DomeLink.JsonForm

/-- Flag words, by the names of their flags. -/
def flags {t : FlagTable} : JsonForm (Flags t) where
  toJson x := .text x.toText
  ofJson? x := x.text?.bind Flags.ofText?

/-- High-voltage modes. -/
def eht : JsonForm EhtMode := choice EhtMode.name EhtMode.ofName?

end DomeLink.JsonForm
