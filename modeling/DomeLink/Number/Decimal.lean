import DomeLink.Text.Numeral

/-!
# Decimal numerals

Model of how the numbers on a command line are read.

A numeral is digits with an optional sign, an optional point, which needs a digit on one side, and
an optional exponent. Infinity and the value that is no number have names, in letters of either case
and with an optional sign. A numeral is kept as it is written: its digits and its exponent.
-/

namespace DomeLink

/-- A decimal numeral. -/
inductive Decimal
  /-- The number `digits · 10 ^ exponent`, or its negative. -/
  | finite (negative : Bool) (digits : Nat) (exponent : Int)
  | infinite (negative : Bool)
  | nan
  deriving DecidableEq, Repr

namespace Decimal

/-- The sign in front of a numeral, and what follows it. -/
def sign : List Char → Bool × List Char
  | '-' :: cs => (true, cs)
  | '+' :: cs => (false, cs)
  | cs => (false, cs)

/-- The integer of an optional sign and one or more digits. -/
def integer? (cs : List Char) : Option Int :=
  let (negative, ds) := sign cs
  if ds.isEmpty || !ds.all Char.isDigit then none
  else some (if negative then -(Text.natOfDigits ds : Int) else Text.natOfDigits ds)

/-- The natural number of an optional plus sign and one or more digits. -/
def natural? : List Char → Option Nat
  | '-' :: _ => none
  | cs => (integer? cs).map Int.toNat

/-- The exponent at the end of a numeral; it may be missing. -/
def exponent? : List Char → Option Int
  | [] => some 0
  | c :: cs => if c = 'e' ∨ c = 'E' then integer? cs else none

/-- The digits after the point, and what follows them; the point may be missing. -/
def fraction : List Char → List Char × List Char
  | '.' :: cs => (cs.takeWhile Char.isDigit, cs.dropWhile Char.isDigit)
  | cs => ([], cs)

/-- The numeral after its sign. -/
def unsigned? (negative : Bool) (cs : List Char) : Option Decimal :=
  let whole := cs.takeWhile Char.isDigit
  let (part, rest) := fraction (cs.dropWhile Char.isDigit)
  if whole.isEmpty && part.isEmpty then none
  else
    (exponent? rest).map fun e =>
      .finite negative (Text.natOfDigits (whole ++ part)) (e - part.length)

/-- The numeral of a text. -/
def ofText? (s : String) : Option Decimal :=
  let (negative, cs) := sign s.toList
  let name := String.ofList (cs.map Char.toLower)
  if name = "inf" ∨ name = "infinity" then some (.infinite negative)
  else if name = "nan" then some .nan
  else unsigned? negative cs

end Decimal

end DomeLink
