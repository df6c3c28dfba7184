/-!
# Blank characters

Model of the trimming and splitting of texts that flag words and printed lines need.

`isBlank` is the Unicode property White_Space, all of it. `trim` drops it at both ends of a text;
what lies between stays.
-/

namespace DomeLink.Text

/-- The character has the property White_Space. -/
def isBlank (c : Char) : Bool :=
  let n := c.toNat
  (0x09 ≤ n && n ≤ 0x0D) || n == 0x20 || n == 0x85 || n == 0xA0 || n == 0x1680 ||
    (0x2000 ≤ n && n ≤ 0x200A) || n == 0x2028 || n == 0x2029 || n == 0x202F || n == 0x205F ||
    n == 0x3000

/-- The characters without the blanks at their end. -/
def trimRight (cs : List Char) : List Char := (cs.reverse.dropWhile isBlank).reverse

/-- The characters without the blanks at either end. -/
def trim (cs : List Char) : List Char := trimRight (cs.dropWhile isBlank)

/-- The pieces between the separators; `n` separators give `n + 1` pieces. -/
def splitAt (sep : Char) : List Char → List (List Char)
  | [] => [[]]
  | c :: rest =>
    if c = sep then [] :: splitAt sep rest
    else
      match splitAt sep rest with
      | piece :: more => (c :: piece) :: more
      | [] => [[c]]

end DomeLink.Text
