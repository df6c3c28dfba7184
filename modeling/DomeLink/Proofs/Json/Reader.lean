import DomeLink.Proofs.Json.Grammar

/-!
# Reading every text of a value

The reader gives the value of each of its texts (`readChars?_of_isText`). Each of its parts is given
a text with something behind it, and takes the text and no more. What is behind a number must not go
on with it (`Ends`); behind a value of the grammar there is a blank, a comma or a bracket, or
nothing.
-/

namespace DomeLink.Json

variable {x : Json} {cs ds rest : List Char}

/-! ## Blanks -/

theorem skipBlanks_append {b : List Char} (hb : Blanks b) (cs : List Char) :
    skipBlanks (b ++ cs) = skipBlanks cs :=
  List.dropWhile_append_of_pos hb

theorem skipBlanks_cons {c : Char} (h : isBlank c = false) (cs : List Char) :
    skipBlanks (c :: cs) = c :: cs :=
  List.dropWhile_cons_of_neg (Bool.eq_false_iff.1 h)

theorem skipBlanks_blanks {b : List Char} (hb : Blanks b) : skipBlanks b = [] := by
  have h := skipBlanks_append hb []
  rwa [List.append_nil] at h

theorem expect_append (word cs : List Char) : expect word (word ++ cs) = some cs := by
  simp [expect]

/-! ## Strings -/

theorem pieces_of_spelled {ps : List JsonPiece} (h : Spelled ps cs) (rest : List Char) :
    pieces (cs ++ '"' :: rest) = some (ps, rest) := by
  induction h with
  | nil => simp [pieces]
  | char hprint hquote hslash _ ih =>
    rw [List.cons_append, pieces]
    · rw [if_neg (not_or.2 ⟨Nat.not_lt.2 hprint, hslash⟩), ih]
      rfl
    all_goals simp_all
  | @escape e _ _ _ he _ ih =>
    have hne : e ≠ 'u' := by
      rintro rfl
      simp [escape?] at he
    rw [List.cons_append, List.cons_append, pieces]
    · rw [he, ih]
      rfl
    · simp [hne]
  | unit hu _ ih => simp [pieces, hu, ih]

/-! ## Numbers -/

/-- A number cannot go on with the character. -/
def endsNumber (c : Char) : Bool := !c.isDigit && c ≠ '.' && c ≠ 'e' && c ≠ 'E'

/-- What stands behind a number does not go on with it. -/
def Ends (rest : List Char) : Prop := ∀ c, rest.head? = some c → endsNumber c = true

theorem ends_nil : Ends [] := nofun

theorem ends_cons {c : Char} (h : endsNumber c = true) (rest : List Char) : Ends (c :: rest) := by
  rintro _ ⟨⟩
  exact h

theorem endsNumber_of_isBlank {c : Char} (h : isBlank c = true) : endsNumber c = true := by
  simp only [isBlank, Bool.or_eq_true, decide_eq_true_eq] at h
  rcases h with ((rfl | rfl) | rfl) | rfl <;> rfl

theorem ends_append {b : List Char} (hb : Blanks b) (h : Ends rest) : Ends (b ++ rest) := by
  cases b with
  | nil => exact h
  | cons c b => exact ends_cons (endsNumber_of_isBlank (hb c List.mem_cons_self)) _

theorem takeWhile_digits (hds : ∀ c ∈ ds, c.isDigit = true)
    (h : ∀ c, rest.head? = some c → c.isDigit = false) :
    (ds ++ rest).takeWhile Char.isDigit = ds ∧ (ds ++ rest).dropWhile Char.isDigit = rest := by
  rw [List.takeWhile_append_of_pos hds, List.dropWhile_append_of_pos hds]
  cases rest with
  | nil => simp
  | cons c rest =>
    have hc : ¬ c.isDigit = true := Bool.eq_false_iff.1 (h c rfl)
    rw [List.takeWhile_cons_of_neg hc, List.dropWhile_cons_of_neg hc, List.append_nil]
    exact ⟨rfl, rfl⟩

theorem digits_append (hds : IsDigits ds) (h : ∀ c, rest.head? = some c → c.isDigit = false) :
    digits (ds ++ rest) = some (ds, rest) := by
  obtain ⟨htake, hdrop⟩ := takeWhile_digits hds.digits h
  unfold digits
  rw [htake, hdrop]
  cases hcase : ds with
  | nil => exact absurd hcase hds.ne_nil
  | cons c ds => rfl

theorem wholePart_append {n : Literal} (hn : n.WellFormed)
    (h : ∀ c, rest.head? = some c → c.isDigit = false) :
    wholePart (n.whole ++ rest) = some (n.whole, rest) := by
  unfold wholePart
  rw [digits_append hn.whole h]
  exact if_neg fun hzero => hzero.2 (hn.leading hzero.1)

theorem fractionPart_append {n : Literal} (hn : n.WellFormed)
    (h : ∀ c, rest.head? = some c → c.isDigit = false ∧ c ≠ '.') :
    fractionPart (n.fraction ++ rest) = some (n.fraction, rest) := by
  rcases hn.fraction with hnil | ⟨ds, hds, hfraction⟩
  · rw [hnil, List.nil_append]
    cases rest with
    | nil => rfl
    | cons c rest =>
      have hc := (h c rfl).2
      simp [fractionPart, hc]
  · rw [hfraction, List.cons_append, fractionPart, digits_append hds fun c hc => (h c hc).1]
    rfl

theorem exponentSign_append {sign : List Char} (hsign : sign = [] ∨ sign = ['+'] ∨ sign = ['-'])
    (hds : IsDigits ds) (rest : List Char) :
    exponentSign (sign ++ (ds ++ rest)) = (sign, ds ++ rest) := by
  rcases hsign with rfl | rfl | rfl
  · cases hcase : ds with
    | nil => exact absurd hcase hds.ne_nil
    | cons c ds =>
      have hc : c.isDigit = true := hds.digits c (hcase ▸ List.mem_cons_self)
      have hplus : c ≠ '+' := by
        rintro rfl
        cases hc
      have hminus : c ≠ '-' := by
        rintro rfl
        cases hc
      simp [exponentSign, hplus, hminus]
  · rfl
  · rfl

theorem exponentPart_append {n : Literal} (hn : n.WellFormed) (h : Ends rest) :
    exponentPart (n.exponent ++ rest) = some (n.exponent, rest) := by
  rcases hn.exponent with hnil | ⟨e, sign, ds, he, hsign, hds, hexponent⟩
  · rw [hnil, List.nil_append]
    cases rest with
    | nil => rfl
    | cons c rest =>
      have hc := h c rfl
      simp only [endsNumber, Bool.and_eq_true, decide_eq_true_eq] at hc
      simp [exponentPart, hc.1.2, hc.2]
  · have hdigit : ∀ c, rest.head? = some c → c.isDigit = false := fun c hc => by
      have := h c hc
      simp only [endsNumber, Bool.and_eq_true, Bool.not_eq_true'] at this
      exact this.1.1.1
    rw [hexponent, List.cons_append, List.append_assoc, exponentPart, if_pos he,
      exponentSign_append hsign hds]
    simp only [digits_append hds hdigit]
    rfl

/-- What stands behind the whole part is no digit, and what stands behind the fraction no point
either. -/
theorem head?_exponent_append {n : Literal} (hn : n.WellFormed) (h : Ends rest) :
    ∀ c, (n.exponent ++ rest).head? = some c → c.isDigit = false ∧ c ≠ '.' := by
  intro c hc
  rcases hn.exponent with hnil | ⟨e, sign, ds, he, -, -, hexponent⟩
  · rw [hnil, List.nil_append] at hc
    have hends := h c hc
    simp only [endsNumber, Bool.and_eq_true, Bool.not_eq_true', decide_eq_true_eq] at hends
    exact hends.1.1
  · rw [hexponent] at hc
    cases hc
    rcases he with rfl | rfl <;> decide

theorem head?_fraction_append {n : Literal} (hn : n.WellFormed) (h : Ends rest) :
    ∀ c, (n.fraction ++ (n.exponent ++ rest)).head? = some c → c.isDigit = false := by
  intro c hc
  rcases hn.fraction with hnil | ⟨ds, -, hfraction⟩
  · rw [hnil, List.nil_append] at hc
    exact (head?_exponent_append hn h c hc).1
  · rw [hfraction] at hc
    cases hc
    rfl

theorem unsigned_append {n : Literal} (hn : n.WellFormed) (h : Ends rest) :
    unsigned n.negative (n.whole ++ (n.fraction ++ (n.exponent ++ rest))) =
      some (n.value, rest) := by
  have hinteger : (n.fraction.isEmpty && n.exponent.isEmpty &&
        !(n.negative && Text.natOfDigits n.whole = 0)) = true ↔
      n.fraction = [] ∧ n.exponent = [] ∧ ¬ (n.negative ∧ Text.natOfDigits n.whole = 0) := by
    cases n.negative <;> simp [and_assoc]
  unfold unsigned
  rw [wholePart_append hn (head?_fraction_append hn h)]
  simp only [bind, Option.bind, fractionPart_append hn (head?_exponent_append hn h),
    exponentPart_append hn h, Literal.value]
  by_cases hvalue : n.fraction = [] ∧ n.exponent = [] ∧
      ¬ (n.negative ∧ Text.natOfDigits n.whole = 0)
  · rw [if_pos (hinteger.2 hvalue), if_pos hvalue]
    rfl
  · rw [if_neg (mt hinteger.1 hvalue), if_neg hvalue]
    rfl

theorem number_append {n : Literal} (hn : n.WellFormed) (h : Ends rest) :
    number (n.text ++ rest) = some (n.value, rest) := by
  have hunsigned := unsigned_append hn h
  unfold Literal.text
  cases hnegative : n.negative with
  | true =>
    rw [hnegative] at hunsigned
    simpa [number] using hunsigned
  | false =>
    rw [hnegative] at hunsigned
    obtain ⟨d, ds, hwhole⟩ := List.exists_cons_of_ne_nil hn.whole.ne_nil
    have hd : d ≠ '-' := by
      rintro rfl
      have := hn.whole.digits '-' (hwhole ▸ List.mem_cons_self)
      cases this
    rw [hwhole] at hunsigned ⊢
    simpa [number, hd] using hunsigned

/-! ## Values -/

/-- A number starts with a digit or a minus sign. -/
theorem Literal.exists_text {n : Literal} (hn : n.WellFormed) :
    ∃ c cs, n.text = c :: cs ∧ (c.isDigit = true ∨ c = '-') := by
  obtain ⟨d, ds, hwhole⟩ := List.exists_cons_of_ne_nil hn.whole.ne_nil
  unfold Literal.text
  cases n.negative with
  | true => exact ⟨'-', _, rfl, .inr rfl⟩
  | false =>
    have hd : d.isDigit = true := hn.whole.digits d (hwhole ▸ List.mem_cons_self)
    exact ⟨d, _, by rw [hwhole]; rfl, .inl hd⟩

/-- A number is read as one, since no other value starts as it does. -/
theorem value_eq_number {c : Char} (hc : c.isDigit = true ∨ c = '-') (bound : Nat)
    (cs : List Char) : value (bound + 1) (c :: cs) = number (c :: cs) := by
  rw [value]
  all_goals
    rintro _ ⟨⟩
    revert hc
    decide

/-- A text of a value starts with a character that is no blank and closes nothing. -/
theorem Written.exists_cons (h : Written x cs) :
    ∃ c t, cs = c :: t ∧ isBlank c = false ∧ c ≠ ']' := by
  cases h with
  | null | isTrue | isFalse => exact ⟨_, _, rfl, rfl, by decide⟩
  | number hn =>
    obtain ⟨c, t, htext, hc⟩ := Literal.exists_text hn
    refine ⟨c, t, htext, Bool.eq_false_iff.2 fun hblank => ?_, ?_⟩
    · simp only [isBlank, Bool.or_eq_true, decide_eq_true_eq] at hblank
      rcases hblank with ((rfl | rfl) | rfl) | rfl <;> revert hc <;> decide
    · rintro rfl
      revert hc
      decide
  | str hs =>
    cases hs
    exact ⟨_, _, rfl, rfl, by decide⟩
  | noItems | arr | noMembers | obj => exact ⟨_, _, rfl, rfl, by decide⟩

theorem skipBlanks_written (h : Written x cs) (rest : List Char) :
    skipBlanks (cs ++ rest) = cs ++ rest := by
  obtain ⟨c, t, rfl, hc, -⟩ := h.exists_cons
  exact skipBlanks_cons hc _

theorem Quoted.exists_cons {k : JsonText} (h : Quoted k cs) : ∃ t, cs = '"' :: t := by
  cases h
  exact ⟨_, rfl⟩

/-- What is inside an array that is not empty does not start by closing it. -/
theorem WrittenItems.exists_cons {xs : List Json} (h : WrittenItems xs cs) (rest : List Char) :
    ∃ c t, skipBlanks (cs ++ rest) = c :: t ∧ c ≠ ']' := by
  cases h with
  | last hb h | cons hb h =>
    obtain ⟨c, t, rfl, hc, hclose⟩ := h.exists_cons
    rw [List.append_assoc, skipBlanks_append hb]
    exact ⟨c, _, skipBlanks_cons hc _, hclose⟩

/-- What is inside an object that is not empty starts with a key. -/
theorem WrittenMembers.exists_cons {ms : List (JsonText × Json)} (h : WrittenMembers ms cs)
    (rest : List Char) : ∃ t, skipBlanks (cs ++ rest) = '"' :: t := by
  cases h with
  | last hb hk | cons hb hk =>
    obtain ⟨t, rfl⟩ := hk.exists_cons
    rw [List.append_assoc, skipBlanks_append hb]
    exact ⟨_, skipBlanks_cons rfl _⟩

/-- A string is read as its text. -/
theorem value_quoted {s : JsonText} (h : Quoted s cs) (bound : Nat) (rest : List Char) :
    value (bound + 1) (cs ++ rest) = some (.str s, rest) := by
  obtain ⟨h⟩ := h
  have hpieces := pieces_of_spelled h rest
  simp [value, hpieces]

theorem value_array {xs : List Json} (h : WrittenItems xs cs) {bound : Nat} {rest : List Char}
    (hitems : items bound (skipBlanks (cs ++ ']' :: rest)) = some (xs, rest)) :
    value (bound + 1) ('[' :: (cs ++ ']' :: rest)) = some (.arr xs, rest) := by
  obtain ⟨c, t, hcs, hc⟩ := h.exists_cons (']' :: rest)
  rw [hcs] at hitems
  simp [value, hcs, hc, hitems]

theorem value_object {ms : List (JsonText × Json)} (h : WrittenMembers ms cs) {bound : Nat}
    {rest : List Char}
    (hmembers : members bound (skipBlanks (cs ++ '}' :: rest)) = some (ms, rest)) :
    value (bound + 1) ('{' :: (cs ++ '}' :: rest)) = some (.obj ms, rest) := by
  obtain ⟨t, hcs⟩ := h.exists_cons ('}' :: rest)
  rw [hcs] at hmembers
  simp [value, hcs, hmembers]

theorem skipBlanks_quoted {k : JsonText} (h : Quoted k cs) (rest : List Char) :
    skipBlanks (cs ++ rest) = cs ++ rest := by
  obtain ⟨t, rfl⟩ := h.exists_cons
  exact skipBlanks_cons rfl _

/-- A member is read, and the members after it if a comma stands behind it. -/
theorem members_member {k : JsonText} {ks b₁ b₂ text rest tail : List Char}
    {ms : List (JsonText × Json)} (hk : Quoted k ks) (hb₁ : Blanks b₁) (hb₂ : Blanks b₂)
    (h : Written x text) {bound : Nat} (hvalue : value bound (text ++ rest) = some (x, rest))
    (hrest : skipBlanks rest = '}' :: tail ∧ ms = [] ∨
      ∃ more, skipBlanks rest = ',' :: more ∧ members bound (skipBlanks more) = some (ms, tail)) :
    members (bound + 1) (ks ++ (b₁ ++ ':' :: (b₂ ++ (text ++ rest)))) =
      some ((k, x) :: ms, tail) := by
  obtain ⟨h'⟩ := hk
  rename_i body
  have hquote := expect_append ['"'] (body ++ '"' :: (b₁ ++ ':' :: (b₂ ++ (text ++ rest))))
  have hpieces := pieces_of_spelled h' (b₁ ++ ':' :: (b₂ ++ (text ++ rest)))
  have hcolon := expect_append [':'] (b₂ ++ (text ++ rest))
  simp only [List.cons_append, List.append_assoc, List.nil_append] at hquote hcolon ⊢
  rw [members]
  simp only [hquote, hpieces, bind, Option.bind, skipBlanks_append hb₁,
    skipBlanks_cons (c := ':') rfl, hcolon, skipBlanks_append hb₂, skipBlanks_written h, hvalue]
  rcases hrest with ⟨hclose, rfl⟩ | ⟨more, hcomma, hmembers⟩
  · simp [hclose]
  · simp [hcomma, hmembers]

mutual

/-- **A text of a value is read as the value**, and no more than the text is read. -/
theorem value_of_written {x : Json} {cs : List Char} (h : Written x cs) (bound : Nat)
    (hbound : 2 * cs.length ≤ bound) {rest : List Char} (hrest : Ends rest) :
    value bound (cs ++ rest) = some (x, rest) := by
  -- A value takes one off the bound, and the items or members inside it take another for each: two
  -- for each character are enough.
  obtain ⟨bound, rfl⟩ : ∃ b, bound = b + 1 := by
    obtain ⟨c, t, rfl, -⟩ := h.exists_cons
    exact Nat.exists_eq_add_of_le' (by rw [List.length_cons] at hbound; omega)
  match h with
  | .null => simp [value, expect]
  | .isTrue => simp [value, expect]
  | .isFalse => simp [value, expect]
  | .number hn =>
    obtain ⟨c, t, htext, hc⟩ := Literal.exists_text hn
    have hnumber := number_append hn hrest
    rw [htext] at hnumber ⊢
    exact (value_eq_number hc bound _).trans hnumber
  | .str hs => exact value_quoted hs bound rest
  | .noItems hb => simp [value, skipBlanks_append hb, skipBlanks_cons (c := ']') rfl]
  | .arr hxs =>
    rw [List.length_cons, List.length_append, List.length_singleton] at hbound
    have hitems := items_of_written hxs bound (by omega) rest
    simpa using value_array hxs hitems
  | .noMembers hb => simp [value, skipBlanks_append hb, skipBlanks_cons (c := '}') rfl]
  | .obj hms =>
    rw [List.length_cons, List.length_append, List.length_singleton] at hbound
    have hmembers := members_of_written hms bound (by omega) rest
    simpa using value_object hms hmembers

theorem items_of_written {xs : List Json} {cs : List Char} (h : WrittenItems xs cs) (bound : Nat)
    (hbound : 2 * cs.length + 1 ≤ bound) (rest : List Char) :
    items bound (skipBlanks (cs ++ ']' :: rest)) = some (xs, rest) := by
  obtain ⟨bound, rfl⟩ := Nat.exists_eq_add_of_le' (Nat.le_trans (Nat.le_add_left ..) hbound)
  match h with
  | .last hb h hb' =>
    simp only [List.length_append] at hbound
    have hvalue := value_of_written h bound (by omega)
      (ends_append hb' (ends_cons (c := ']') rfl rest))
    simp only [List.append_assoc, skipBlanks_append hb, skipBlanks_written h]
    simp [items, hvalue, skipBlanks_append hb', skipBlanks_cons (c := ']') rfl]
  | @WrittenItems.cons _ _ _ _ _ ds hb h hb' hs =>
    simp only [List.length_append, List.length_cons] at hbound
    have hvalue := value_of_written h bound (by omega)
      (ends_append hb' (ends_cons (c := ',') rfl (ds ++ ']' :: rest)))
    have hitems := items_of_written hs bound (by omega) rest
    simp only [List.append_assoc, List.cons_append, skipBlanks_append hb, skipBlanks_written h]
    simp [items, hvalue, hitems, skipBlanks_append hb', skipBlanks_cons (c := ',') rfl]

theorem members_of_written {ms : List (JsonText × Json)} {cs : List Char}
    (h : WrittenMembers ms cs) (bound : Nat) (hbound : 2 * cs.length + 1 ≤ bound)
    (rest : List Char) :
    members bound (skipBlanks (cs ++ '}' :: rest)) = some (ms, rest) := by
  obtain ⟨bound, rfl⟩ := Nat.exists_eq_add_of_le' (Nat.le_trans (Nat.le_add_left ..) hbound)
  match h with
  | .last hb hk hb₁ hb₂ h hb' =>
    simp only [List.length_append, List.length_cons] at hbound
    have hvalue := value_of_written h bound (by omega)
      (ends_append hb' (ends_cons (c := '}') rfl rest))
    simp only [List.append_assoc, List.cons_append, skipBlanks_append hb, skipBlanks_quoted hk]
    refine members_member hk hb₁ hb₂ h hvalue (.inl ⟨?_, rfl⟩)
    rw [skipBlanks_append hb', skipBlanks_cons rfl]
  | @WrittenMembers.cons _ _ _ _ _ _ _ _ _ ds hb hk hb₁ hb₂ h hb' hs =>
    simp only [List.length_append, List.length_cons] at hbound
    have hvalue := value_of_written h bound (by omega)
      (ends_append hb' (ends_cons (c := ',') rfl (ds ++ '}' :: rest)))
    have hmembers := members_of_written hs bound (by omega) rest
    simp only [List.append_assoc, List.cons_append, skipBlanks_append hb, skipBlanks_quoted hk]
    refine members_member hk hb₁ hb₂ h hvalue (.inr ⟨_, ?_, hmembers⟩)
    rw [skipBlanks_append hb', skipBlanks_cons rfl]

end

/-- **Every text of a value is read as the value.** -/
theorem readChars?_of_isText (h : IsText x cs) : readChars? cs = some x := by
  obtain ⟨b, text, b', hb, htext, hb', rfl⟩ := h
  have hends : Ends b' := by simpa using ends_append hb' ends_nil
  have hvalue := value_of_written htext (2 * (b ++ (text ++ b')).length + 1)
    (by simp only [List.length_append]; omega) hends
  rw [readChars?, skipBlanks_append hb, skipBlanks_written htext, hvalue]
  simp [skipBlanks_blanks hb']

end DomeLink.Json
