import DomeLink.Json.Value
import DomeLink.Text.Numeral

/-!
# Writing JSON

Model of the two JSON writers, of which the tool and configuration files use the indented one.

Two layouts of a value: `compact` without blanks, and `indented` with one item or member to a line,
two blanks for each level and one after each colon. Empty arrays and objects stay on their line in
both. Strings escape quotes, backslashes and control characters only.

Out of scope: the shortest numeral of a number that is no integer. Such a number is written as it
was read.
-/

namespace DomeLink.Json

/-- A character as it stands in a string. -/
def charText (c : Char) : String :=
  if c = '"' then "\\\""
  else if c = '\\' then "\\\\"
  else if c = '\x08' then "\\b"
  else if c = '\x0c' then "\\f"
  else if c = '\n' then "\\n"
  else if c = '\r' then "\\r"
  else if c = '\t' then "\\t"
  else if c.toNat < 0x20 then "\\u" ++ Text.lowerHex 4 c.toNat
  else String.ofList [c]

/-- A piece of a string as it stands there. -/
def pieceText : JsonPiece → String
  | .char c => charText c
  | .unit u => "\\u" ++ Text.lowerHex 4 u.toNat

/-- A string with its quotes. -/
def quoted : JsonText → String
  | .plain s => "\"" ++ String.join (s.toList.map charText) ++ "\""
  | .broken ps => "\"" ++ String.join (ps.map pieceText) ++ "\""

/-- How the parts of arrays and objects stand apart. -/
structure Layout where
  /-- After an opening bracket, after a comma and before a closing bracket, by level. -/
  lineBreak : Nat → String
  /-- Between a key and its value. -/
  colon : String

/-- No blanks at all. -/
def Layout.compact : Layout := ⟨fun _ => "", ":"⟩

/-- Each item and member on a line of its own. -/
def Layout.indented : Layout :=
  ⟨fun level => "\n" ++ String.ofList (List.replicate (2 * level) ' '), ": "⟩

mutual

/-- A value, at the level of its surroundings. -/
def write (l : Layout) (level : Nat) : Json → String
  | .null => "null"
  | .bool true => "true"
  | .bool false => "false"
  | .int n => toString n
  | .real literal => literal
  | .str s => quoted s
  | .arr [] => "[]"
  | .arr (x :: xs) =>
    "[" ++ l.lineBreak (level + 1) ++ write l (level + 1) x ++ writeItems l (level + 1) xs ++
      l.lineBreak level ++ "]"
  | .obj [] => "\x7b\x7d"
  | .obj ((k, x) :: ms) =>
    "\x7b" ++ l.lineBreak (level + 1) ++ quoted k ++ l.colon ++ write l (level + 1) x ++
      writeMembers l (level + 1) ms ++ l.lineBreak level ++ "\x7d"

/-- The items after the first, each with its comma. -/
def writeItems (l : Layout) (level : Nat) : List Json → String
  | [] => ""
  | x :: xs => "," ++ l.lineBreak level ++ write l level x ++ writeItems l level xs

/-- The members after the first, each with its comma. -/
def writeMembers (l : Layout) (level : Nat) : List (JsonText × Json) → String
  | [] => ""
  | (k, x) :: ms =>
    "," ++ l.lineBreak level ++ quoted k ++ l.colon ++ write l level x ++ writeMembers l level ms

end

/-- The value without blanks. -/
def compact (x : Json) : String := write .compact 0 x

/-- The value over several lines. -/
def indented (x : Json) : String := write .indented 0 x

end DomeLink.Json
