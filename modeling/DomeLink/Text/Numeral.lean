/-!
# Numerals

Model of the numbers in messages, tables and status lines, and of the digits in flag words, JSON and
arguments.

Written: hexadecimal numerals of a least width, in either case, and tenths with one decimal place.
Read: hexadecimal digits of either case, one at a time, and runs of decimal digits.

Out of scope: signs and blanks in front of a number, which no text here asks for.
-/

namespace DomeLink.Text

/-- The characters with zeros in front up to the width. -/
def padZeros (width : Nat) (cs : List Char) : List Char :=
  List.replicate (width - cs.length) '0' ++ cs

/-- The lowercase hexadecimal numeral of at least `width` digits. -/
def lowerHex (width n : Nat) : String := String.ofList (padZeros width (Nat.toDigits 16 n))

/-- The uppercase hexadecimal numeral of at least `width` digits. -/
def upperHex (width n : Nat) : String :=
  String.ofList (padZeros width ((Nat.toDigits 16 n).map Char.toUpper))

/-- The numeral of `n` tenths, with one decimal place. -/
def tenths (n : Nat) : String := toString (n / 10) ++ "." ++ toString (n % 10)

/-- The value of a hexadecimal digit of either case. -/
def hexDigit? (c : Char) : Option Nat :=
  if '0' ≤ c ∧ c ≤ '9' then some (c.toNat - '0'.toNat)
  else if 'a' ≤ c ∧ c ≤ 'f' then some (c.toNat - 'a'.toNat + 10)
  else if 'A' ≤ c ∧ c ≤ 'F' then some (c.toNat - 'A'.toNat + 10)
  else none

/-- The number that decimal digits spell. -/
def natOfDigits (ds : List Char) : Nat := ds.foldl (fun n d => n * 10 + (d.toNat - '0'.toNat)) 0

end DomeLink.Text
