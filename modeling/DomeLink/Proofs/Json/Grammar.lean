import DomeLink.Json.Reader

/-!
# The texts of a JSON value

A value has many texts: blanks may stand between any two tokens, a character of a string may be
escaped, and the members of an object may stand in any order. `Written x cs` says that the
characters are one of the texts of the value, by the grammar of RFC 8259. `IsText` adds the blanks
around it.
-/

namespace DomeLink.Json

/-- Nothing but blanks. -/
def Blanks (cs : List Char) : Prop := ∀ c ∈ cs, isBlank c = true

/-! ## Strings -/

/-- The characters between the quotes of a string. -/
inductive Spelled : List JsonPiece → List Char → Prop
  | nil : Spelled [] []
  | char {c : Char} {ps : List JsonPiece} {cs : List Char} (hprint : 0x20 ≤ c.toNat)
      (hquote : c ≠ '"') (hslash : c ≠ '\\') (h : Spelled ps cs) :
      Spelled (.char c :: ps) (c :: cs)
  | escape {e c : Char} {ps : List JsonPiece} {cs : List Char} (he : escape? e = some c)
      (h : Spelled ps cs) : Spelled (.char c :: ps) ('\\' :: e :: cs)
  | unit {a b c d : Char} {u : UInt16} {ps : List JsonPiece} {cs : List Char}
      (hu : unit? a b c d = some u) (h : Spelled ps cs) :
      Spelled (.unit u :: ps) ('\\' :: 'u' :: a :: b :: c :: d :: cs)

/-- A string with its quotes. -/
inductive Quoted : JsonText → List Char → Prop
  | mk {ps : List JsonPiece} {cs : List Char} (h : Spelled ps cs) :
      Quoted (ofPieces ps) ('"' :: cs ++ ['"'])

/-! ## Numbers -/

/-- A number in the parts in which it is written. -/
structure Literal where
  negative : Bool
  whole : List Char
  fraction : List Char
  exponent : List Char

/-- One or more decimal digits. -/
structure IsDigits (ds : List Char) : Prop where
  ne_nil : ds ≠ []
  digits : ∀ c ∈ ds, c.isDigit = true

namespace Literal

/-- The number as it is written. -/
def text (n : Literal) : List Char :=
  (if n.negative then ['-'] else []) ++ n.whole ++ n.fraction ++ n.exponent

/-- The value of the number. Only digits make an integer, and `-0` is none. -/
def value (n : Literal) : Json :=
  if n.fraction = [] ∧ n.exponent = [] ∧ ¬ (n.negative ∧ Text.natOfDigits n.whole = 0) then
    .int (if n.negative then -(Text.natOfDigits n.whole : Int) else Text.natOfDigits n.whole)
  else .real (String.ofList n.text)

/-- The parts of a number. -/
structure WellFormed (n : Literal) : Prop where
  whole : IsDigits n.whole
  /-- No zero stands in front. -/
  leading : n.whole.head? = some '0' → n.whole = ['0']
  fraction : n.fraction = [] ∨ ∃ ds, IsDigits ds ∧ n.fraction = '.' :: ds
  exponent : n.exponent = [] ∨
    ∃ e sign ds, (e = 'e' ∨ e = 'E') ∧ (sign = [] ∨ sign = ['+'] ∨ sign = ['-']) ∧ IsDigits ds ∧
      n.exponent = e :: (sign ++ ds)

end Literal

/-! ## Values -/

mutual

/-- The characters are a text of the value. -/
inductive Written : Json → List Char → Prop
  | null : Written .null ['n', 'u', 'l', 'l']
  | isTrue : Written (.bool true) ['t', 'r', 'u', 'e']
  | isFalse : Written (.bool false) ['f', 'a', 'l', 's', 'e']
  | number {n : Literal} (h : n.WellFormed) : Written n.value n.text
  | str {s : JsonText} {cs : List Char} (h : Quoted s cs) : Written (.str s) cs
  | noItems {b : List Char} (hb : Blanks b) : Written (.arr []) ('[' :: (b ++ [']']))
  | arr {xs : List Json} {cs : List Char} (h : WrittenItems xs cs) :
      Written (.arr xs) ('[' :: (cs ++ [']']))
  | noMembers {b : List Char} (hb : Blanks b) : Written (.obj []) ('{' :: (b ++ ['}']))
  | obj {ms : List (JsonText × Json)} {cs : List Char} (h : WrittenMembers ms cs) :
      Written (.obj ms) ('{' :: (cs ++ ['}']))

/-- One or more values with commas between them. -/
inductive WrittenItems : List Json → List Char → Prop
  | last {x : Json} {b cs b' : List Char} (hb : Blanks b) (h : Written x cs) (hb' : Blanks b') :
      WrittenItems [x] (b ++ (cs ++ b'))
  | cons {x : Json} {xs : List Json} {b cs b' ds : List Char} (hb : Blanks b) (h : Written x cs)
      (hb' : Blanks b') (hs : WrittenItems xs ds) :
      WrittenItems (x :: xs) (b ++ (cs ++ (b' ++ ',' :: ds)))

/-- One or more members with commas between them. -/
inductive WrittenMembers : List (JsonText × Json) → List Char → Prop
  | last {k : JsonText} {x : Json} {b ks b₁ b₂ cs b' : List Char} (hb : Blanks b)
      (hk : Quoted k ks) (hb₁ : Blanks b₁) (hb₂ : Blanks b₂) (h : Written x cs) (hb' : Blanks b') :
      WrittenMembers [(k, x)] (b ++ (ks ++ (b₁ ++ ':' :: (b₂ ++ (cs ++ b')))))
  | cons {k : JsonText} {x : Json} {ms : List (JsonText × Json)} {b ks b₁ b₂ cs b' ds : List Char}
      (hb : Blanks b) (hk : Quoted k ks) (hb₁ : Blanks b₁) (hb₂ : Blanks b₂) (h : Written x cs)
      (hb' : Blanks b') (hs : WrittenMembers ms ds) :
      WrittenMembers ((k, x) :: ms)
        (b ++ (ks ++ (b₁ ++ ':' :: (b₂ ++ (cs ++ (b' ++ ',' :: ds))))))

end

/-- The characters are a text of the value with any blanks around it. -/
def IsText (x : Json) (cs : List Char) : Prop :=
  ∃ b text b', Blanks b ∧ Written x text ∧ Blanks b' ∧ cs = b ++ (text ++ b')

end DomeLink.Json
