import DomeLink.Flags.Text

/-!
# Numerals are read back

A numeral is made of digits of its base, and starts with a zero only if it is `0`. Decimal digits
and hexadecimal digits spell the number whose numeral they are.
-/

namespace DomeLink.Text

variable {b n : Nat} {c : Char}

/-- A numeral is made of digits. -/
theorem exists_digit_of_mem (hb : 1 < b) (h : c ∈ Nat.toDigits b n) :
    ∃ d < b, c = Nat.digitChar d := by
  induction n using Nat.strongRecOn with
  | ind n ih =>
    by_cases hn : n < b
    · rw [Nat.toDigits_of_lt_base hn] at h
      exact ⟨n, hn, List.mem_singleton.1 h⟩
    · have hle : b ≤ n := Nat.le_of_not_lt hn
      rw [Nat.toDigits_of_base_le hb hle, List.mem_append, List.mem_singleton] at h
      rcases h with h | h
      · exact ih (n / b) (Nat.div_lt_self (by omega) hb) h
      · exact ⟨n % b, Nat.mod_lt n (by omega), h⟩

theorem toDigits_ne_nil (hb : 1 < b) (n : Nat) : Nat.toDigits b n ≠ [] := by
  rw [Nat.toDigits_eq_if hb]
  split <;> simp

/-- Only the numeral of zero starts with a zero. -/
theorem eq_zero_of_head?_toDigits (h : (Nat.toDigits 10 n).head? = some '0') : n = 0 := by
  induction n using Nat.strongRecOn with
  | ind n ih =>
    by_cases hn : n < 10
    · rw [Nat.toDigits_of_lt_base hn] at h
      have hdigit : ∀ d < 10, Nat.digitChar d = '0' → d = 0 := by decide
      exact hdigit n hn (Option.some.inj h)
    · obtain ⟨d, ds, hds⟩ :=
        List.exists_cons_of_ne_nil (toDigits_ne_nil (b := 10) (by decide) (n / 10))
      rw [Nat.toDigits_of_base_le (by decide) (Nat.le_of_not_lt hn), hds] at h
      have := ih (n / 10) (by omega) (by rw [hds]; exact h)
      omega

/-- The decimal numeral of a number spells it. -/
theorem natOfDigits_toDigits (n : Nat) : natOfDigits (Nat.toDigits 10 n) = n := by
  have h := Nat.ofDigitChars_toDigits (n := n) (show 1 < 10 by decide) (by decide)
  rw [Nat.ofDigitChars_eq_foldl] at h
  simpa only [natOfDigits, Nat.mul_comm] using h

theorem hexDigit?_digitChar : ∀ d < 16, hexDigit? (Nat.digitChar d) = some d := by
  decide

end DomeLink.Text

namespace DomeLink.Flags

/-- The hexadecimal numeral of a number spells it. -/
theorem hexDigits?_toDigits (n : Nat) : hexDigits? (Nat.toDigits 16 n) = some n := by
  obtain ⟨c, cs, hcs⟩ := List.exists_cons_of_ne_nil (Text.toDigits_ne_nil (b := 16) (by decide) n)
  rw [hcs, hexDigits?, ← hcs]
  clear hcs
  induction n using Nat.strongRecOn with
  | ind n ih =>
    by_cases hn : n < 16
    · rw [Nat.toDigits_of_lt_base hn]
      simp [Text.hexDigit?_digitChar n hn]
    · rw [Nat.toDigits_of_base_le (by decide) (Nat.le_of_not_lt hn), List.foldlM_append,
        ih (n / 16) (by omega)]
      simp [Text.hexDigit?_digitChar (n % 16) (by omega), Nat.div_add_mod']

end DomeLink.Flags
