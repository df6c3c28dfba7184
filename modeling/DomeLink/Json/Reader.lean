import DomeLink.Json.Value
import DomeLink.Text.Numeral

/-!
# Reading JSON

Model of the JSON reader behind configuration files.

The grammar of RFC 8259: four blank characters, no comments, no trailing commas, no control
characters in strings. `Json.read?` reads a whole text; blanks may stand around the value and
nothing else may.

Each reader takes the characters to read and gives the value with the characters after it.
Recursion is on a bound, of which two are used at most for each character.

Out of scope: where a text breaks the grammar, and what the reader says of it.
-/

namespace DomeLink.Json

/-- A reader: the value and what follows it. -/
abbrev Reader (α : Type) := List Char → Option (α × List Char)

/-- A blank of the grammar. -/
def isBlank (c : Char) : Bool := c = ' ' || c = '\t' || c = '\n' || c = '\r'

/-- The characters after any blanks. -/
def skipBlanks (cs : List Char) : List Char := cs.dropWhile isBlank

/-- The characters after the given ones. -/
def expect (word : List Char) (cs : List Char) : Option (List Char) :=
  if word.isPrefixOf cs then some (cs.drop word.length) else none

/-! ## Strings -/

/-- The unit that four hexadecimal digits spell. -/
def unit? (a b c d : Char) : Option UInt16 := do
  let ds ← [a, b, c, d].mapM Text.hexDigit?
  return UInt16.ofNat (ds.foldl (fun n d => n * 16 + d) 0)

/-- The character of an escape other than `\u`. -/
def escape? : Char → Option Char
  | '"' => some '"'
  | '\\' => some '\\'
  | '/' => some '/'
  | 'b' => some '\x08'
  | 'f' => some '\x0c'
  | 'n' => some '\n'
  | 'r' => some '\r'
  | 't' => some '\t'
  | _ => none

/-- The pieces of a string up to the closing quote. -/
def pieces : Reader (List JsonPiece)
  | '"' :: rest => some ([], rest)
  | '\\' :: 'u' :: a :: b :: c :: d :: rest => do
    let u ← unit? a b c d
    let (ps, rest) ← pieces rest
    return (.unit u :: ps, rest)
  | '\\' :: e :: rest => do
    let c ← escape? e
    let (ps, rest) ← pieces rest
    return (.char c :: ps, rest)
  | c :: rest =>
    if c.toNat < 0x20 ∨ c = '\\' then none
    else do
      let (ps, rest) ← pieces rest
      return (.char c :: ps, rest)
  | [] => none

/-- The unit is the first half of a surrogate pair. -/
def isHighHalf (u : UInt16) : Bool := 0xD800 ≤ u && u ≤ 0xDBFF

/-- The unit is the second half of a surrogate pair. -/
def isLowHalf (u : UInt16) : Bool := 0xDC00 ≤ u && u ≤ 0xDFFF

/-- The character of a surrogate pair. -/
def ofHalves (high low : UInt16) : Char :=
  Char.ofNat (0x10000 + (high.toNat - 0xD800) * 0x400 + (low.toNat - 0xDC00))

/-- The characters that the pieces spell, unless a half of a surrogate pair stands alone. -/
def spell? : List JsonPiece → Option (List Char)
  | [] => some []
  | .char c :: rest => (spell? rest).map (c :: ·)
  | .unit u :: rest =>
    if isLowHalf u then none
    else if isHighHalf u then
      match rest with
      | .unit v :: rest => if isLowHalf v then (spell? rest).map (ofHalves u v :: ·) else none
      | _ => none
    else (spell? rest).map (Char.ofNat u.toNat :: ·)

/-- What the pieces spell. -/
def ofPieces (ps : List JsonPiece) : JsonText :=
  match spell? ps with
  | some cs => .plain (String.ofList cs)
  | none => .broken ps

/-! ## Numbers -/

/-- One or more decimal digits. -/
def digits : Reader (List Char) := fun cs =>
  match cs.takeWhile Char.isDigit with
  | [] => none
  | ds => some (ds, cs.dropWhile Char.isDigit)

/-- The integer part of a number: `0`, or digits that do not start with `0`. -/
def wholePart : Reader (List Char) := fun cs => do
  let (ds, rest) ← digits cs
  if ds.head? = some '0' ∧ ds ≠ ['0'] then none else some (ds, rest)

/-- The fraction of a number, if it has one. -/
def fractionPart : Reader (List Char)
  | '.' :: cs => do
    let (ds, rest) ← digits cs
    return ('.' :: ds, rest)
  | cs => some ([], cs)

/-- The sign of an exponent, if it has one. -/
def exponentSign : List Char → List Char × List Char
  | '+' :: cs => (['+'], cs)
  | '-' :: cs => (['-'], cs)
  | cs => ([], cs)

/-- The exponent of a number, if it has one. -/
def exponentPart : Reader (List Char)
  | c :: cs =>
    if c = 'e' ∨ c = 'E' then do
      let (sign, cs) := exponentSign cs
      let (ds, rest) ← digits cs
      return (c :: sign ++ ds, rest)
    else some ([], c :: cs)
  | [] => some ([], [])

/-- A number after its sign. -/
def unsigned (negative : Bool) : Reader Json := fun cs => do
  let (whole, cs) ← wholePart cs
  let (fraction, cs) ← fractionPart cs
  let (exponent, cs) ← exponentPart cs
  let n := Text.natOfDigits whole
  let sign := if negative then ['-'] else []
  if fraction.isEmpty && exponent.isEmpty && !(negative && n = 0) then
    return (.int (if negative then -(n : Int) else n), cs)
  else return (.real (String.ofList (sign ++ whole ++ fraction ++ exponent)), cs)

/-- A number. -/
def number : Reader Json
  | '-' :: cs => unsigned true cs
  | cs => unsigned false cs

/-! ## Values -/

mutual

/-- A value that starts right here. -/
def value : Nat → Reader Json
  | 0, _ => none
  | bound + 1, cs =>
    match cs with
    | '"' :: cs => (pieces cs).map fun (ps, cs) => (.str (ofPieces ps), cs)
    | '[' :: cs =>
      match skipBlanks cs with
      | ']' :: cs => some (.arr [], cs)
      | cs => (items bound cs).map fun (xs, cs) => (.arr xs, cs)
    | '{' :: cs =>
      match skipBlanks cs with
      | '}' :: cs => some (.obj [], cs)
      | cs => (members bound cs).map fun (ms, cs) => (.obj ms, cs)
    | 'n' :: cs => (expect ['u', 'l', 'l'] cs).map (.null, ·)
    | 't' :: cs => (expect ['r', 'u', 'e'] cs).map (.bool true, ·)
    | 'f' :: cs => (expect ['a', 'l', 's', 'e'] cs).map (.bool false, ·)
    | cs => number cs

/-- One or more values with commas between them, up to the closing bracket. -/
def items : Nat → Reader (List Json)
  | 0, _ => none
  | bound + 1, cs => do
    let (x, cs) ← value bound cs
    match skipBlanks cs with
    | ']' :: cs => return ([x], cs)
    | ',' :: cs =>
      let (xs, cs) ← items bound (skipBlanks cs)
      return (x :: xs, cs)
    | _ => none

/-- One or more members with commas between them, up to the closing brace. -/
def members : Nat → Reader (List (JsonText × Json))
  | 0, _ => none
  | bound + 1, cs => do
    let cs ← expect ['"'] cs
    let (ps, cs) ← pieces cs
    let cs ← expect [':'] (skipBlanks cs)
    let (x, cs) ← value bound (skipBlanks cs)
    match skipBlanks cs with
    | '}' :: cs => return ([(ofPieces ps, x)], cs)
    | ',' :: cs =>
      let (ms, cs) ← members bound (skipBlanks cs)
      return ((ofPieces ps, x) :: ms, cs)
    | _ => none

end

/-- The value of a whole text. -/
def readChars? (cs : List Char) : Option Json := do
  let (x, rest) ← value (2 * cs.length + 1) (skipBlanks cs)
  if (skipBlanks rest).isEmpty then some x else none

/-- The value of a whole text. -/
def read? (s : String) : Option Json := readChars? s.toList

end DomeLink.Json
