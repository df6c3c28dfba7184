/-!
# JSON values

Model of the JSON values that configuration files and printed statuses consist of.

A value as it stands in a text. Integers are values of their own; a number with a fraction or an
exponent is kept as it is written, and so is `-0`, which no integer spells. A string whose escapes
hold half of a surrogate pair spells no text: it is kept piece by piece. The members of an object
keep their order and may repeat a key.

Out of scope: what a number that is no integer amounts to. No member here is one.
-/

namespace DomeLink

/-- A character of a JSON string, or a 16-bit unit written as an escape. -/
inductive JsonPiece
  | char (c : Char)
  | unit (u : UInt16)
  deriving DecidableEq, Repr

/-- What a JSON string spells. -/
inductive JsonText
  | plain (s : String)
  /-- An escape holds half of a surrogate pair. -/
  | broken (pieces : List JsonPiece)
  deriving DecidableEq, Repr

/-- A JSON value. -/
inductive Json
  | null
  | bool (b : Bool)
  | int (n : Int)
  /-- A number that is not written as an integer. -/
  | real (literal : String)
  | str (s : JsonText)
  | arr (items : List Json)
  | obj (members : List (JsonText × Json))

namespace Json

/-- The string of a text. -/
def text (s : String) : Json := .str (.plain s)

/-- The object with the given members. -/
def record (members : List (String × Json)) : Json :=
  .obj (members.map fun m => (.plain m.1, m.2))

/-- The text of a string. -/
def text? : Json → Option String
  | .str (.plain s) => some s
  | _ => none

/-- The integer from `low` to `high` that the value is. -/
def intIn? (low high : Int) : Json → Option Int
  | .int n => if low ≤ n ∧ n ≤ high then some n else none
  | _ => none

end Json

end DomeLink
