import DomeLink.Flags.Basic
import DomeLink.Text.Blank
import DomeLink.Text.Numeral

/-!
# Flag words as text

Model of the text of a flag type: `toText` as it stands in JSON, `label` as the tool shows it.

A flag word is written as the names of its set bits, in the order of the table, joined by ` | `;
the bits without a name follow as one lowercase hexadecimal numeral. The empty word is the empty
text. `label` puts the name of the kind around it, and writes the empty word as `0x0`.

Reading takes the names and numerals in any order, with any blanks around them, and gives the flags
of all pieces together.

Out of scope: why a text is refused.
-/

namespace DomeLink.Flags

variable {t : FlagTable}

/-- The named flags that are set, in the order of the table. -/
def setNames (x : Flags t) : List (String × Nat) := t.names.filter fun f => x.has (ofNat f.2)

/-- What is set apart from the named flags. -/
def unnamed (x : Flags t) : Flags t := x.setNames.foldl (fun y f => y.erase (ofNat f.2)) x

/-- The pieces of the text. -/
def pieces (x : Flags t) : List String :=
  x.setNames.map Prod.fst ++
    if x.unnamed.isEmpty then [] else ["0x" ++ Text.lowerHex 1 x.unnamed.toNat]

/-- The flags by name; the empty word is the empty text. -/
def toText (x : Flags t) : String := " | ".intercalate x.pieces

/-- The flags by name, inside the name of their kind. -/
def label (x : Flags t) : String :=
  t.typeName ++ "(" ++ (if x.isEmpty then "0x0" else x.toText) ++ ")"

/-- The value of one or more hexadecimal digits. -/
def hexDigits? : List Char → Option Nat
  | [] => none
  | c :: cs => (c :: cs).foldlM (fun n d => (Text.hexDigit? d).map (n * 16 + ·)) 0

/-- The value of a hexadecimal numeral, which may have a plus sign. -/
def hexNumeral? : List Char → Option Nat
  | '+' :: cs => hexDigits? cs
  | cs => hexDigits? cs

/-- The flags of one piece: a name of the table, or `0x` and a numeral that fits the word. -/
def ofPiece? : List Char → Option (Flags t)
  | '0' :: 'x' :: cs =>
    match hexNumeral? cs with
    | some n => if n < t.size then some (ofNat n) else none
    | none => none
  | cs => (t.names.find? fun f => f.1.toList = cs).map fun f => ofNat f.2

/-- The flags of a text: of all its pieces together, or none of a blank text. -/
def ofText? (text : String) : Option (Flags t) :=
  if (Text.trim text.toList).isEmpty then some ∅
  else
    (Text.splitAt '|' text.toList).foldlM
      (fun x piece => (ofPiece? (Text.trim piece)).map x.insert) ∅

end DomeLink.Flags
