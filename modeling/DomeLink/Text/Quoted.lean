import DomeLink.Text.Glyph
import DomeLink.Text.Numeral

/-!
# Quoted text in messages

Model of the quoted form in which the fault of a wrong header shows both headers.

A text is shown between double quotes. Quotes, backslashes, tabs, line ends and NUL are written
with a backslash; every other character that does not show, or that would merge with the one
before it, by its code point in hexadecimal between braces.
-/

namespace DomeLink.Text

/-- A character as it stands inside quotes. -/
def quoteChar (c : Char) : String :=
  if c = '\x00' then "\\0"
  else if c = '\t' then "\\t"
  else if c = '\r' then "\\r"
  else if c = '\n' then "\\n"
  else if c = '\\' then "\\\\"
  else if c = '"' then "\\\""
  else if extendsGrapheme c || !isPrintable c then "\\u\x7b" ++ lowerHex 1 c.toNat ++ "\x7d"
  else String.ofList [c]

/-- The text between quotes. -/
def quote (cs : List Char) : String := "\"" ++ String.join (cs.map quoteChar) ++ "\""

end DomeLink.Text
