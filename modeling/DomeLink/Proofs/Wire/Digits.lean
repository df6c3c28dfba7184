import DomeLink.Proofs.Outcome
import DomeLink.Wire.Digits
import Mathlib.Algebra.GroupWithZero.Nat

/-!
# Digit fields: reading undoes writing

A field of `width` digits holds a value modulo the power of the radix, and what is read from it is
below that power.

* `readDecimal_writeDecimal`, `readHex_writeHex`: a written value is read back modulo the power.
* `readDecimal_lt`, `readHex_lt`: what is read from `n` digits lies below that power.
-/

namespace DomeLink.Digits

/-! ## Reading in two parts -/

theorem readDecimalFrom_append (acc : UInt32) (index : Nat) (xs ys : Bytes) :
    readDecimalFrom acc index (xs ++ ys) =
      (readDecimalFrom acc index xs >>= fun a => readDecimalFrom a (index + xs.length) ys) := by
  induction xs generalizing acc index with
  | nil => rfl
  | cons x xs ih =>
    simp only [List.cons_append, readDecimalFrom]
    cases hv : decimalValue? x with
    | none => rfl
    | some v =>
      cases ha : appendDecimal acc v with
      | error e => simp only [ha, error_bind]
      | ok next =>
        simp only [ha, ih, List.length_cons]
        rw [Nat.add_assoc, Nat.add_comm 1]

theorem readHexFrom_append (acc : UInt32) (index : Nat) (xs ys : Bytes) :
    readHexFrom acc index (xs ++ ys) =
      (readHexFrom acc index xs >>= fun a => readHexFrom a (index + xs.length) ys) := by
  induction xs generalizing acc index with
  | nil => rfl
  | cons x xs ih =>
    simp only [List.cons_append, readHexFrom]
    cases hv : hexValue? x with
    | none => rfl
    | some v =>
      simp only [ih, List.length_cons]
      rw [Nat.add_assoc, Nat.add_comm 1]

/-! ## Single digits -/

theorem decimalValue?_ofNat :
    ∀ d : Fin 10, decimalValue? (0x30 + UInt8.ofNat d) = some (UInt8.ofNat d) := by
  decide

theorem hexValue?_hexDigit_ofNat :
    ∀ d : Fin 16, hexValue? (hexDigit (UInt8.ofNat d)) = some (UInt8.ofNat d) := by
  decide

theorem decimalValue?_digit {d : UInt8} (h : d.toNat < 10) : decimalValue? (0x30 + d) = some d := by
  have := decimalValue?_ofNat ⟨d.toNat, h⟩
  simpa using this

theorem hexValue?_hexDigit {d : UInt8} (h : d.toNat < 16) : hexValue? (hexDigit d) = some d := by
  have := hexValue?_hexDigit_ofNat ⟨d.toNat, h⟩
  simpa using this

theorem decimalValue?_lt {b v : UInt8} (h : decimalValue? b = some v) : v.toNat < 10 := by
  unfold decimalValue? at h
  split at h
  · rename_i hb
    cases h
    have h₁ : 0x30 ≤ b.toNat := UInt8.le_iff_toNat_le.1 hb.1
    have h₂ : b.toNat ≤ 0x39 := UInt8.le_iff_toNat_le.1 hb.2
    rw [UInt8.toNat_sub_of_le _ _ hb.1]
    show b.toNat - 0x30 < 10
    omega
  · cases h

/-! ## Whole fields -/

theorem toNat_ofNat_of_le {v : UInt32} {m : Nat} (h : m ≤ v.toNat) :
    (UInt32.ofNat m).toNat = m := by
  have hv := v.toNat_lt
  rw [UInt32.toNat_ofNat', Nat.mod_eq_of_lt (by omega)]

theorem appendDecimal_eq_ok {acc next : UInt32} {digit : UInt8} :
    appendDecimal acc digit = .ok next ↔
      acc.toNat * 10 + digit.toNat < UInt32.size ∧ next.toNat = acc.toNat * 10 + digit.toNat := by
  have hd := digit.toNat_lt
  unfold appendDecimal
  split
  · split
    · rename_i h₁ h₂
      have hn : (acc * 10 + digit.toUInt32).toNat = acc.toNat * 10 + digit.toNat := by
        simp only [UInt32.toNat_add, UInt32.toNat_mul, UInt8.toNat_toUInt32, UInt32.reduceToNat]
        simp only [UInt32.size] at h₁ h₂
        omega
      constructor
      · intro h
        cases h
        exact ⟨h₂, hn⟩
      · rintro ⟨-, h⟩
        rw [UInt32.toNat_inj.1 (hn.trans h.symm)]
    · rename_i h
      exact iff_of_false (by rintro ⟨⟩) fun h' => h h'.1
  · rename_i h
    exact iff_of_false (by rintro ⟨⟩) fun h' => absurd h'.1 (by omega)

/-- One more digit moves the digits before it up by one place; the highest of eight is lost. -/
theorem toNat_appendHex (acc : UInt32) {digit : UInt8} (hd : digit.toNat < 16) :
    ((acc <<< 4) ||| digit.toUInt32).toNat = acc.toNat % 2 ^ 28 * 16 + digit.toNat := by
  have hshift : acc.toNat <<< 4 % 2 ^ 32 = (acc.toNat % 2 ^ 28) <<< 4 := by
    rw [Nat.shiftLeft_eq, Nat.shiftLeft_eq]
    omega
  rw [UInt32.toNat_or, UInt32.toNat_shiftLeft, UInt8.toNat_toUInt32]
  show acc.toNat <<< 4 % 2 ^ 32 ||| digit.toNat = _
  rw [hshift, ← Nat.shiftLeft_add_eq_or_of_lt hd, Nat.shiftLeft_eq]

/-- **A decimal field is read back** modulo the power of ten that its width allows. -/
theorem readDecimal_writeDecimal (width : Nat) (v : UInt32) :
    readDecimal (writeDecimal width v) = .ok (UInt32.ofNat (v.toNat % 10 ^ width)) := by
  induction width generalizing v with
  | zero => simp [writeDecimal, readDecimal, readDecimalFrom, Nat.mod_one]
  | succ n ih =>
    have hd : (v % 10).toUInt8.toNat = v.toNat % 10 := by
      simp only [UInt32.toNat_toUInt8, UInt32.toNat_mod, UInt32.reduceToNat]
      omega
    have hq : (v / 10).toNat = v.toNat / 10 := by simp
    have hle := Nat.mod_le v.toNat (10 ^ (n + 1))
    have hsplit : v.toNat % 10 ^ (n + 1) = v.toNat % 10 + 10 * (v.toNat / 10 % 10 ^ n) := by
      rw [Nat.pow_succ', Nat.mod_mul]
    have hacc : (UInt32.ofNat ((v / 10).toNat % 10 ^ n)).toNat = v.toNat / 10 % 10 ^ n := by
      rw [hq]
      exact toNat_ofNat_of_le (v := v) (by omega)
    have hnext : appendDecimal (UInt32.ofNat ((v / 10).toNat % 10 ^ n)) (v % 10).toUInt8 =
        .ok (UInt32.ofNat (v.toNat % 10 ^ (n + 1))) := by
      have hv := v.toNat_lt
      rw [appendDecimal_eq_ok, hacc, hd, toNat_ofNat_of_le hle]
      simp only [UInt32.size]
      omega
    unfold readDecimal at ih ⊢
    rw [writeDecimal, readDecimalFrom_append, ih, ok_bind, readDecimalFrom,
      decimalValue?_digit (by rw [hd]; omega)]
    simp only [hnext, readDecimalFrom]

/-- **A hexadecimal field is read back** modulo the power of sixteen that its width allows. -/
theorem readHex_writeHex (width : Nat) (v : UInt32) :
    readHex (writeHex width v) = .ok (UInt32.ofNat (v.toNat % 16 ^ width)) := by
  induction width generalizing v with
  | zero => simp [writeHex, readHex, readHexFrom, Nat.mod_one]
  | succ n ih =>
    have hd : (v &&& 0x0F).toUInt8.toNat = v.toNat % 16 := by
      rw [UInt32.toNat_toUInt8, UInt32.toNat_and]
      show (v.toNat &&& 2 ^ 4 - 1) % 2 ^ 8 = _
      rw [Nat.and_two_pow_sub_one_eq_mod]
      omega
    have hq : (v >>> 4).toNat = v.toNat / 16 := by
      rw [UInt32.toNat_shiftRight]
      exact Nat.shiftRight_eq_div_pow _ 4
    have hle := Nat.mod_le v.toNat (16 ^ (n + 1))
    have hsplit : v.toNat % 16 ^ (n + 1) = v.toNat % 16 + 16 * (v.toNat / 16 % 16 ^ n) := by
      rw [Nat.pow_succ', Nat.mod_mul]
    have hacc : (UInt32.ofNat ((v >>> 4).toNat % 16 ^ n)).toNat = v.toNat / 16 % 16 ^ n := by
      rw [hq]
      exact toNat_ofNat_of_le (v := v) (by omega)
    have hnext : (UInt32.ofNat ((v >>> 4).toNat % 16 ^ n) <<< 4) ||| (v &&& 0x0F).toUInt8.toUInt32 =
        UInt32.ofNat (v.toNat % 16 ^ (n + 1)) := by
      have hv := v.toNat_lt
      rw [← UInt32.toNat_inj, toNat_ofNat_of_le hle, toNat_appendHex _ (by rw [hd]; omega), hacc,
        hd]
      omega
    unfold readHex at ih ⊢
    rw [writeHex, readHexFrom_append, ih, ok_bind, readHexFrom,
      hexValue?_hexDigit (by rw [hd]; omega)]
    simp only [hnext, readHexFrom]

theorem readDecimalFrom_lt {acc v : UInt32} {index : Nat} {bs : Bytes}
    (h : readDecimalFrom acc index bs = .ok v) : v.toNat < (acc.toNat + 1) * 10 ^ bs.length := by
  induction bs generalizing acc index with
  | nil =>
    cases h
    simp
  | cons b bs ih =>
    simp only [readDecimalFrom] at h
    cases hb : decimalValue? b with
    | none => simp only [hb] at h; cases h
    | some d =>
      cases ha : appendDecimal acc d with
      | error e => simp only [hb, ha] at h; cases h
      | ok next =>
        simp only [hb, ha] at h
        have hd := decimalValue?_lt hb
        have hn := (appendDecimal_eq_ok.1 ha).2
        calc v.toNat < (next.toNat + 1) * 10 ^ bs.length := ih h
          _ ≤ ((acc.toNat + 1) * 10) * 10 ^ bs.length := Nat.mul_le_mul_right _ (by omega)
          _ = (acc.toNat + 1) * 10 ^ (b :: bs).length := by
            rw [List.length_cons, Nat.pow_succ', Nat.mul_assoc]

/-- A decimal field of `n` digits has a value below `10 ^ n`. -/
theorem readDecimal_lt {bs : Bytes} {v : UInt32} (h : readDecimal bs = .ok v) :
    v.toNat < 10 ^ bs.length := by
  have := readDecimalFrom_lt h
  simpa using this

theorem hexValue?_lt {b v : UInt8} (h : hexValue? b = some v) : v.toNat < 16 := by
  -- In each of the three ranges the value is the distance from the byte that stands for zero there.
  have sub_lt : ∀ z : UInt8, z.toNat ≤ b.toNat → b.toNat < z.toNat + 16 → (b - z).toNat < 16 := by
    intro z hz hb
    rw [UInt8.toNat_sub_of_le _ _ (UInt8.le_iff_toNat_le.2 hz)]
    omega
  simp only [hexValue?, UInt8.le_iff_toNat_le] at h
  split at h
  · rename_i hb
    cases h
    exact sub_lt 0x30 hb.1 (Nat.lt_of_le_of_lt hb.2 (by decide))
  · split at h
    · rename_i hb
      cases h
      exact sub_lt 0x37 (Nat.le_trans (by decide) hb.1) (Nat.lt_of_le_of_lt hb.2 (by decide))
    · split at h
      · rename_i hb
        cases h
        exact sub_lt 0x57 (Nat.le_trans (by decide) hb.1) (Nat.lt_of_le_of_lt hb.2 (by decide))
      · cases h

theorem readHexFrom_lt {acc v : UInt32} {index : Nat} {bs : Bytes}
    (h : readHexFrom acc index bs = .ok v) : v.toNat < (acc.toNat + 1) * 16 ^ bs.length := by
  induction bs generalizing acc index with
  | nil =>
    cases h
    simp
  | cons b bs ih =>
    simp only [readHexFrom] at h
    cases hb : hexValue? b with
    | none => simp only [hb] at h; cases h
    | some d =>
      simp only [hb] at h
      have hd := hexValue?_lt hb
      have hn := toNat_appendHex acc hd
      calc v.toNat < (((acc <<< 4) ||| d.toUInt32).toNat + 1) * 16 ^ bs.length := ih h
        _ ≤ ((acc.toNat + 1) * 16) * 16 ^ bs.length := Nat.mul_le_mul_right _ (by omega)
        _ = (acc.toNat + 1) * 16 ^ (b :: bs).length := by
          rw [List.length_cons, Nat.pow_succ', Nat.mul_assoc]

/-- What is read from `n` hexadecimal digits lies below `16 ^ n`. -/
theorem readHex_lt {bs : Bytes} {v : UInt32} (h : readHex bs = .ok v) :
    v.toNat < 16 ^ bs.length := by
  have := readHexFrom_lt h
  simpa using this

end DomeLink.Digits
