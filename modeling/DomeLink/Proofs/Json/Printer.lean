import DomeLink.Json.Printer
import DomeLink.Proofs.Json.Reader
import DomeLink.Proofs.Numeral

/-!
# What is written is a text of the value

A layout may put blanks where the grammar allows them (`Layout.Blank`). A value without broken
strings and without numbers kept as they were read (`Plain`) is written as one of its texts in every
such layout, `compact` and `indented` among them, so the reader gives it back.
-/

namespace DomeLink.Json

variable {x : Json}

/-! ## Strings -/

/-- The two hexadecimal digits of a control character. -/
theorem lowerHex_control : ∀ n < 0x20,
    Text.padZeros 4 (Nat.toDigits 16 n) =
        ['0', '0', Nat.digitChar (n / 16), Nat.digitChar (n % 16)] ∧
      unit? '0' '0' (Nat.digitChar (n / 16)) (Nat.digitChar (n % 16)) = some (UInt16.ofNat n) := by
  decide

/-- A character stands in a string escaped, as its code if it is a control character, or as it
is. -/
theorem charText_cases (c : Char) :
    (∃ e, escape? e = some c ∧ (charText c).toList = ['\\', e]) ∨
    (c.toNat < 0x20 ∧ (charText c).toList =
      ['\\', 'u', '0', '0', Nat.digitChar (c.toNat / 16), Nat.digitChar (c.toNat % 16)]) ∨
    (0x20 ≤ c.toNat ∧ c ≠ '"' ∧ c ≠ '\\' ∧ (charText c).toList = [c]) := by
  fun_cases charText c
  · subst_vars
    exact .inl ⟨'"', rfl, rfl⟩
  · subst_vars
    exact .inl ⟨'\\', rfl, rfl⟩
  · subst_vars
    exact .inl ⟨'b', rfl, rfl⟩
  · subst_vars
    exact .inl ⟨'f', rfl, rfl⟩
  · subst_vars
    exact .inl ⟨'n', rfl, rfl⟩
  · subst_vars
    exact .inl ⟨'r', rfl, rfl⟩
  · subst_vars
    exact .inl ⟨'t', rfl, rfl⟩
  · rename_i h
    refine .inr (.inl ⟨h, ?_⟩)
    rw [String.toList_append, Text.lowerHex, (lowerHex_control _ h).1]
    simp
  · rename_i hquote hslash _ _ _ _ _ h
    exact .inr (.inr ⟨Nat.le_of_not_lt h, hquote, hslash, String.toList_ofList⟩)

/-- A control character is spelled by its code. -/
theorem spell?_control {c : Char} (h : c.toNat < 0x20) (ps : List JsonPiece) :
    spell? (.unit (UInt16.ofNat c.toNat) :: ps) = (spell? ps).map (c :: ·) := by
  have hn : (UInt16.ofNat c.toNat).toNat = c.toNat := by
    rw [UInt16.toNat_ofNat', Nat.mod_eq_of_lt (by omega)]
  have hhalf : ∀ n < 0x20, isLowHalf (UInt16.ofNat n) = false ∧
      isHighHalf (UInt16.ofNat n) = false := by decide
  obtain ⟨hlow, hhigh⟩ := hhalf _ h
  conv => lhs; unfold spell?
  simp [hlow, hhigh, hn]

/-- The text of a character spells it, in front of whatever is spelled behind it. -/
theorem exists_spelled_charText (c : Char) {ps : List JsonPiece} {cs : List Char}
    (h : Spelled ps cs) :
    ∃ p, Spelled (p :: ps) ((charText c).toList ++ cs) ∧
      spell? (p :: ps) = (spell? ps).map (c :: ·) := by
  rcases charText_cases c with ⟨e, he, htext⟩ | ⟨hc, htext⟩ | ⟨hprint, hquote, hslash, htext⟩
  · rw [htext]
    exact ⟨.char c, .escape he h, rfl⟩
  · rw [htext]
    exact ⟨.unit _, .unit (lowerHex_control _ hc).2 h, spell?_control hc ps⟩
  · rw [htext]
    exact ⟨.char c, .char hprint hquote hslash h, rfl⟩

theorem exists_spelled (cs : List Char) :
    ∃ ps, Spelled ps (cs.flatMap fun c => (charText c).toList) ∧ spell? ps = some cs := by
  induction cs with
  | nil => exact ⟨[], .nil, rfl⟩
  | cons c cs ih =>
    obtain ⟨ps, hspelled, hspell⟩ := ih
    obtain ⟨p, hp, hspell'⟩ := exists_spelled_charText c hspelled
    exact ⟨p :: ps, hp, by rw [hspell', hspell]; rfl⟩

/-- A string that spells a text is written as one of its texts. -/
theorem quoted_plain (s : String) : Quoted (.plain s) (quoted (.plain s)).toList := by
  obtain ⟨ps, hspelled, hspell⟩ := exists_spelled s.toList
  have h := Quoted.mk hspelled
  simp only [ofPieces, hspell, String.ofList_toList] at h
  simpa [quoted, String.toList_join, List.flatMap_map] using h

/-! ## Numbers -/

/-- An integer in its parts. -/
def Literal.ofInt (n : Int) : Literal := ⟨n < 0, Nat.toDigits 10 n.natAbs, [], []⟩

theorem isDigits_toDigits (n : Nat) : IsDigits (Nat.toDigits 10 n) where
  ne_nil := Text.toDigits_ne_nil (by decide) n
  digits _ h := Nat.isDigit_of_mem_toDigits (by decide) (by decide) h

theorem Literal.wellFormed_ofInt (n : Int) : (Literal.ofInt n).WellFormed where
  whole := isDigits_toDigits _
  leading h := by
    have hzero := Text.eq_zero_of_head?_toDigits h
    simp only [Literal.ofInt, hzero]
    rfl
  fraction := .inl rfl
  exponent := .inl rfl

theorem Literal.text_ofInt (n : Int) : (Literal.ofInt n).text = (toString n).toList := by
  cases n with
  | ofNat n =>
    simp [Literal.text, Literal.ofInt, Int.toString_eq_repr, Int.repr, Nat.toList_repr]
  | negSucc n =>
    simp [Literal.text, Literal.ofInt, Int.toString_eq_repr, Int.repr, Nat.toList_repr,
      Int.negSucc_lt_zero]

theorem Literal.value_ofInt (n : Int) : (Literal.ofInt n).value = .int n := by
  have hzero : ¬ (n < 0 ∧ n.natAbs = 0) := by omega
  simp only [Literal.value, Literal.ofInt, Text.natOfDigits_toDigits, decide_eq_true_eq, true_and,
    if_pos hzero]
  congr 1
  split <;> omega

theorem written_int (n : Int) : Written (.int n) (toString n).toList := by
  rw [← Literal.text_ofInt, ← Literal.value_ofInt]
  exact .number (Literal.wellFormed_ofInt n)

/-! ## Values -/

mutual

/-- No string in the value is broken, and no number is kept as it was read. -/
def Plain : Json → Prop
  | .null | .bool _ | .int _ => True
  | .real _ => False
  | .str s => ∃ t, s = .plain t
  | .arr xs => PlainItems xs
  | .obj ms => PlainMembers ms

/-- All items are plain. -/
def PlainItems : List Json → Prop
  | [] => True
  | x :: xs => Plain x ∧ PlainItems xs

/-- All members are plain, and their keys spell texts. -/
def PlainMembers : List (JsonText × Json) → Prop
  | [] => True
  | (k, x) :: ms => (∃ t, k = .plain t) ∧ Plain x ∧ PlainMembers ms

end

/-- The layout puts only blanks between the tokens. -/
structure Layout.Blank (l : Layout) : Prop where
  lineBreak : ∀ level, Blanks (l.lineBreak level).toList
  colon : ∃ b, Blanks b ∧ l.colon.toList = ':' :: b

theorem blanks_nil : Blanks [] := nofun

theorem Layout.blank_compact : Layout.compact.Blank where
  lineBreak _ := blanks_nil
  colon := ⟨[], blanks_nil, rfl⟩

theorem Layout.blank_indented : Layout.indented.Blank where
  lineBreak level c hc := by
    simp only [Layout.indented, String.toList_append, String.toList_ofList, List.mem_append,
      List.mem_replicate] at hc
    rcases hc with hc | ⟨-, rfl⟩
    · cases List.mem_singleton.1 hc
      rfl
    · rfl
  colon := ⟨[' '], List.forall_mem_singleton.2 rfl, rfl⟩

variable {l : Layout}

mutual

/-- A plain value is written as one of its texts, in every layout. -/
theorem written_write (hl : l.Blank) (level : Nat) :
    (x : Json) → Plain x → Written x (write l level x).toList
  | .null, _ => by simpa [write] using Written.null
  | .bool true, _ => by simpa [write] using Written.isTrue
  | .bool false, _ => by simpa [write] using Written.isFalse
  | .int n, _ => by simpa only [write] using written_int n
  | .real _, h => by cases h
  | .str s, h => by
    obtain ⟨t, rfl⟩ := h
    simpa only [write] using Written.str (quoted_plain t)
  | .arr [], _ => by simpa [write] using Written.noItems blanks_nil
  | .arr (x :: xs), h => by
    have hitems := writtenItems_write hl (level + 1) xs h.2 (hl.lineBreak (level + 1))
      (written_write hl (level + 1) x h.1) (hl.lineBreak level)
    simpa [write] using Written.arr hitems
  | .obj [], _ => by simpa [write] using Written.noMembers blanks_nil
  | .obj ((k, x) :: ms), h => by
    obtain ⟨⟨t, rfl⟩, hx, hms⟩ := h
    have hmembers := writtenMembers_write hl (level + 1) ms hms (hl.lineBreak (level + 1))
      (quoted_plain t) (written_write hl (level + 1) x hx) (hl.lineBreak level)
    simpa [write] using Written.obj hmembers

/-- Items are written behind the text of another one, with any blanks around them all. -/
theorem writtenItems_write (hl : l.Blank) (level : Nat) :
    (xs : List Json) → PlainItems xs → ∀ {x : Json} {b cs b' : List Char}, Blanks b →
    Written x cs → Blanks b' →
    WrittenItems (x :: xs) (b ++ (cs ++ ((writeItems l level xs).toList ++ b')))
  | [], _, _, _, _, _, hb, hx, hb' => by simpa [writeItems] using WrittenItems.last hb hx hb'
  | y :: ys, h, _, _, _, _, hb, hx, hb' => by
    have hrest := writtenItems_write hl level ys h.2 (hl.lineBreak level)
      (written_write hl level y h.1) hb'
    simpa [writeItems] using WrittenItems.cons hb hx blanks_nil hrest

/-- Members are written behind the text of another one, with any blanks around them all. -/
theorem writtenMembers_write (hl : l.Blank) (level : Nat) :
    (ms : List (JsonText × Json)) → PlainMembers ms →
    ∀ {k : JsonText} {x : Json} {b ks cs b' : List Char}, Blanks b → Quoted k ks → Written x cs →
    Blanks b' → WrittenMembers ((k, x) :: ms)
      (b ++ (ks ++ (l.colon.toList ++ (cs ++ ((writeMembers l level ms).toList ++ b')))))
  | [], _, _, _, _, _, _, _, hb, hk, hx, hb' => by
    obtain ⟨colon, hcolon, htext⟩ := hl.colon
    rw [htext]
    simpa [writeMembers] using WrittenMembers.last hb hk blanks_nil hcolon hx hb'
  | (k, y) :: ms, h, _, _, _, _, _, _, hb, hk, hx, hb' => by
    obtain ⟨⟨t, rfl⟩, hy, hms⟩ := h
    obtain ⟨colon, hcolon, htext⟩ := hl.colon
    have hrest := writtenMembers_write hl level ms hms (hl.lineBreak level) (quoted_plain t)
      (written_write hl level y hy) hb'
    rw [htext] at hrest ⊢
    simpa [writeMembers, htext] using
      WrittenMembers.cons hb hk blanks_nil hcolon hx blanks_nil hrest

end

theorem Written.isText {cs : List Char} (h : Written x cs) : IsText x cs :=
  ⟨[], cs, [], blanks_nil, h, blanks_nil, by rw [List.append_nil, List.nil_append]⟩

/-- **A plain value without blanks is one of its texts.** -/
theorem isText_compact (h : Plain x) : IsText x x.compact.toList :=
  (written_write Layout.blank_compact 0 x h).isText

/-- **A plain value over several lines is one of its texts.** -/
theorem isText_indented (h : Plain x) : IsText x x.indented.toList :=
  (written_write Layout.blank_indented 0 x h).isText

end DomeLink.Json
