import DomeLink.Flags.Basic

/-!
# The algebra of flag words

A flag word is a set of bit places, and `has` is inclusion: `x.has m` says that every place of `m`
is one of `x` (`has_iff`). The laws below say what `insert`, `erase` and `assign` do to inclusion on
either side of it. For a single named flag they come down to the `_self` laws where the operation
touches it, and to the `_of_disjoint` laws where it does not.

`Flags.known` is the word of all named flags of a table: `known.has x` says that `x` has no
undefined bit.
-/

namespace DomeLink.Flags

variable {t : FlagTable}

/-! ## Inclusion, bit by bit -/

@[simp] theorem getLsbD_insert (x m : Flags t) (i : Nat) :
    (x.insert m).bits.getLsbD i = (x.bits.getLsbD i || m.bits.getLsbD i) :=
  BitVec.getLsbD_or

@[simp] theorem getLsbD_erase (x m : Flags t) (i : Nat) :
    (x.erase m).bits.getLsbD i = (x.bits.getLsbD i && !m.bits.getLsbD i) := by
  rw [erase, BitVec.getLsbD_and, BitVec.getLsbD_not]
  by_cases h : i < t.width
  · rw [decide_eq_true h, Bool.true_and]
  · rw [BitVec.getLsbD_of_ge x.bits i (Nat.le_of_not_lt h), Bool.false_and, Bool.false_and]

@[simp] theorem getLsbD_empty (i : Nat) : (∅ : Flags t).bits.getLsbD i = false :=
  BitVec.getLsbD_zero

@[simp] theorem insert_empty (x : Flags t) : x.insert ∅ = x := ext_bits BitVec.or_zero

/-- Inclusion is the inclusion of the bit places. -/
theorem has_iff {x m : Flags t} :
    x.has m = true ↔ ∀ i, m.bits.getLsbD i = true → x.bits.getLsbD i = true := by
  rw [has, beq_iff_eq, BitVec.eq_of_getLsbD_eq_iff]
  constructor
  · intro h i hm
    have := h i (BitVec.lt_of_getLsbD hm)
    rw [BitVec.getLsbD_and, hm, Bool.and_true] at this
    exact this
  · intro h i _
    rw [BitVec.getLsbD_and]
    cases hm : m.bits.getLsbD i with
    | false => exact Bool.and_false _
    | true => rw [h i hm]; rfl

/-- Words that do not meet share no bit place. -/
theorem meets_eq_false_iff {x m : Flags t} :
    x.meets m = false ↔ ∀ i, x.bits.getLsbD i = true → m.bits.getLsbD i = false := by
  rw [meets, bne_eq_false_iff_eq, BitVec.eq_of_getLsbD_eq_iff]
  constructor
  · intro h i hx
    have := h i (BitVec.lt_of_getLsbD hx)
    rw [BitVec.getLsbD_and, hx, Bool.true_and] at this
    exact this.trans BitVec.getLsbD_zero
  · intro h i _
    rw [BitVec.getLsbD_and]
    cases hx : x.bits.getLsbD i with
    | false => exact (Bool.false_and _).trans BitVec.getLsbD_zero.symm
    | true => rw [h i hx]; exact BitVec.getLsbD_zero.symm

theorem has_trans {x y z : Flags t} (h₁ : x.has y = true) (h₂ : y.has z = true) :
    x.has z = true :=
  has_iff.2 fun i h => has_iff.1 h₁ i (has_iff.1 h₂ i h)

@[simp] theorem has_self (x : Flags t) : x.has x = true := has_iff.2 fun _ h => h

@[simp] theorem has_eq_false_of_disjoint {x n : Flags t} (h : n.meets x = false)
    (hn : n.meets n = true) : x.has n = false := by
  rw [← Bool.not_eq_true]
  intro hx
  rw [← Bool.not_eq_false, meets_eq_false_iff] at hn
  refine hn fun i hi => ?_
  have := meets_eq_false_iff.1 h i hi
  rw [has_iff.1 hx i hi] at this
  cases this

/-! ## Changes on the left: which flags a changed word has -/

@[simp] theorem has_insert_self (x m : Flags t) : (x.insert m).has m = true :=
  has_iff.2 fun i h => by rw [getLsbD_insert, h, Bool.or_true]

@[simp] theorem has_insert_of_disjoint {x m n : Flags t} (h : n.meets m = false) :
    (x.insert m).has n = x.has n := by
  rw [Bool.eq_iff_iff, has_iff, has_iff]
  refine forall_congr' fun i => forall_congr' fun hn => ?_
  rw [getLsbD_insert, meets_eq_false_iff.1 h i hn, Bool.or_false]

@[simp] theorem has_erase_of_disjoint {x m n : Flags t} (h : n.meets m = false) :
    (x.erase m).has n = x.has n := by
  rw [Bool.eq_iff_iff, has_iff, has_iff]
  refine forall_congr' fun i => forall_congr' fun hn => ?_
  rw [getLsbD_erase, meets_eq_false_iff.1 h i hn, Bool.not_false, Bool.and_true]

@[simp] theorem has_erase_of_meets {x m n : Flags t} (h : n.meets m = true) :
    (x.erase m).has n = false := by
  rw [← Bool.not_eq_true]
  intro hh
  rw [← Bool.not_eq_false, meets_eq_false_iff] at h
  refine h fun i hn => ?_
  have := has_iff.1 hh i hn
  rw [getLsbD_erase, Bool.and_eq_true, Bool.not_eq_true'] at this
  exact this.2

@[simp] theorem has_assign_self {x m : Flags t} (on : Bool) (h : m.meets m = true) :
    (x.assign m on).has m = on := by
  cases on with
  | false => exact has_erase_of_meets h
  | true => exact has_insert_self x m

@[simp] theorem has_assign_of_disjoint {x m n : Flags t} (on : Bool) (h : n.meets m = false) :
    (x.assign m on).has n = x.has n := by
  cases on with
  | false => exact has_erase_of_disjoint h
  | true => exact has_insert_of_disjoint h

theorem meets_insert (x m n : Flags t) : (x.insert m).meets n = (x.meets n || m.meets n) := by
  rw [← Bool.not_inj_iff, Bool.eq_iff_iff, Bool.not_eq_true', Bool.not_eq_true', Bool.or_eq_false_iff,
    meets_eq_false_iff, meets_eq_false_iff, meets_eq_false_iff, ← forall_and]
  refine forall_congr' fun i => ?_
  rw [getLsbD_insert, Bool.or_eq_true, or_imp]

theorem empty_meets (x : Flags t) : (∅ : Flags t).meets x = false :=
  meets_eq_false_iff.2 fun i h => nomatch (getLsbD_empty i).symm.trans h

theorem empty_has {m : Flags t} (h : m.meets m = true) : (∅ : Flags t).has m = false :=
  has_eq_false_of_disjoint (meets_eq_false_iff.2 fun i _ => getLsbD_empty i) h

theorem empty_erase (m : Flags t) : (∅ : Flags t).erase m = ∅ := ext_bits BitVec.zero_and

/-! ## Changes that change nothing -/

theorem insert_eq_self {x m : Flags t} (h : x.has m = true) : x.insert m = x := by
  refine ext_bits (BitVec.eq_of_getLsbD_eq fun i _ => ?_)
  rw [getLsbD_insert]
  cases hm : m.bits.getLsbD i with
  | false => rw [Bool.or_false]
  | true => rw [has_iff.1 h i hm, Bool.or_true]

theorem erase_eq_self {x m : Flags t} (h : x.meets m = false) : x.erase m = x := by
  refine ext_bits (BitVec.eq_of_getLsbD_eq fun i _ => ?_)
  rw [getLsbD_erase]
  cases hx : x.bits.getLsbD i with
  | false => rw [Bool.false_and]
  | true => rw [meets_eq_false_iff.1 h i hx, Bool.not_false, Bool.and_true]

/-! ## Changes that a later erasure covers -/

theorem erase_insert_of_has {m n : Flags t} (h : m.has n = true) (x : Flags t) :
    (x.insert n).erase m = x.erase m := by
  refine ext_bits (BitVec.eq_of_getLsbD_eq fun i _ => ?_)
  rw [getLsbD_erase, getLsbD_erase, getLsbD_insert]
  cases hn : n.bits.getLsbD i with
  | false => rw [Bool.or_false]
  | true => rw [has_iff.1 h i hn, Bool.not_true, Bool.and_false, Bool.and_false]

theorem erase_erase_of_has {m n : Flags t} (h : m.has n = true) (x : Flags t) :
    (x.erase n).erase m = x.erase m := by
  refine ext_bits (BitVec.eq_of_getLsbD_eq fun i _ => ?_)
  rw [getLsbD_erase, getLsbD_erase, getLsbD_erase]
  cases hn : n.bits.getLsbD i with
  | false => rw [Bool.not_false, Bool.and_true]
  | true => rw [has_iff.1 h i hn, Bool.not_true, Bool.and_false, Bool.and_false]

theorem erase_assign_of_has {m n : Flags t} (h : m.has n = true) (x : Flags t) (on : Bool) :
    (x.assign n on).erase m = x.erase m := by
  cases on with
  | false => exact erase_erase_of_has h x
  | true => exact erase_insert_of_has h x

theorem erase_insert (x m n : Flags t) : x.erase (m.insert n) = (x.erase m).erase n := by
  refine ext_bits (BitVec.eq_of_getLsbD_eq fun i _ => ?_)
  rw [getLsbD_erase, getLsbD_erase, getLsbD_erase, getLsbD_insert, Bool.not_or, Bool.and_assoc]

theorem insert_right_comm (x m n : Flags t) : (x.insert m).insert n = (x.insert n).insert m := by
  refine ext_bits (BitVec.eq_of_getLsbD_eq fun i _ => ?_)
  rw [getLsbD_insert, getLsbD_insert, getLsbD_insert, getLsbD_insert, Bool.or_right_comm]

/-! ## Changes on the right: which words have a changed word -/

theorem has_of_insert {x y m : Flags t} (hy : x.has y = true) (hm : x.has m = true) :
    x.has (y.insert m) = true :=
  has_iff.2 fun i h => by
    rw [getLsbD_insert, Bool.or_eq_true] at h
    exact h.elim (has_iff.1 hy i) (has_iff.1 hm i)

theorem has_of_erase {x y : Flags t} (m : Flags t) (hy : x.has y = true) :
    x.has (y.erase m) = true :=
  has_iff.2 fun i h => by
    rw [getLsbD_erase, Bool.and_eq_true] at h
    exact has_iff.1 hy i h.1

theorem has_of_assign {x y m : Flags t} (on : Bool) (hy : x.has y = true) (hm : x.has m = true) :
    x.has (y.assign m on) = true := by
  cases on with
  | false => exact has_of_erase m hy
  | true => exact has_of_insert hy hm

/-! ## Single flags -/

/-- The word has exactly one bit place. -/
def IsSingle (x : Flags t) : Prop := ∃ i, i < t.width ∧ x.bits = BitVec.twoPow t.width i

theorem has_single {m : Flags t} {i : Nat} (hi : i < t.width)
    (hm : m.bits = BitVec.twoPow t.width i) (x : Flags t) : x.has m = x.bits.getLsbD i := by
  rw [Bool.eq_iff_iff, has_iff, hm]
  constructor
  · intro h
    refine h i ?_
    rw [BitVec.getLsbD_twoPow, decide_eq_true hi, decide_eq_true rfl, Bool.and_true]
  · intro h j hj
    rw [BitVec.getLsbD_twoPow, Bool.and_eq_true, decide_eq_true_iff, decide_eq_true_iff] at hj
    rw [← hj.2]
    exact h

theorem IsSingle.has_insert {n : Flags t} (hn : n.IsSingle) (x m : Flags t) :
    (x.insert m).has n = (x.has n || m.has n) := by
  obtain ⟨i, hi, hn⟩ := hn
  simp only [has_single hi hn, getLsbD_insert]

theorem IsSingle.has_erase {n : Flags t} (hn : n.IsSingle) (x m : Flags t) :
    (x.erase m).has n = (x.has n && !m.has n) := by
  obtain ⟨i, hi, hn⟩ := hn
  simp only [has_single hi hn, getLsbD_erase]

theorem IsSingle.empty_has {n : Flags t} (hn : n.IsSingle) : (∅ : Flags t).has n = false := by
  obtain ⟨i, hi, hn⟩ := hn
  rw [has_single hi hn, getLsbD_empty]

theorem IsSingle.meets_eq_has {n : Flags t} (hn : n.IsSingle) (x : Flags t) :
    x.meets n = x.has n := by
  obtain ⟨i, hi, hn⟩ := hn
  rw [has_single hi hn, ← Bool.not_inj_iff, Bool.eq_iff_iff, Bool.not_eq_true', Bool.not_eq_true',
    meets_eq_false_iff, hn]
  constructor
  · intro h
    cases hx : x.bits.getLsbD i with
    | false => rfl
    | true =>
      have hnot := h i hx
      rw [BitVec.getLsbD_twoPow, decide_eq_true hi, decide_eq_true rfl] at hnot
      cases hnot
  · intro hx j hj
    have hne : i ≠ j := by
      rintro rfl
      rw [hx] at hj
      cases hj
    rw [BitVec.getLsbD_twoPow, decide_eq_false hne, Bool.and_false]

/-- A flag may be set to what it is. -/
theorem IsSingle.assign_has {n : Flags t} (hn : n.IsSingle) (x : Flags t) :
    x.assign n (x.has n) = x := by
  cases h : x.has n with
  | false => exact erase_eq_self ((hn.meets_eq_has x).trans h)
  | true => exact insert_eq_self h

/-- A word is known by one flag and its other bits. -/
theorem IsSingle.eq_of_erase {n : Flags t} (hn : n.IsSingle) {x y : Flags t}
    (h : x.has n = y.has n) (he : x.erase n = y.erase n) : x = y := by
  obtain ⟨i, hi, hbits⟩ := hn
  rw [has_single hi hbits, has_single hi hbits] at h
  refine ext_bits (BitVec.eq_of_getLsbD_eq fun j hj => ?_)
  by_cases hij : i = j
  · rw [← hij, h]
  · have hother := congrArg (fun z : Flags t => z.bits.getLsbD j) he
    simp only [getLsbD_erase, hbits, BitVec.getLsbD_twoPow, decide_eq_false hij, Bool.and_false,
      Bool.not_false, Bool.and_true] at hother
    exact hother

/-! ## The named flags -/

/-- All named flags of the table. -/
def known : Flags t := t.names.foldl (fun x f => x.insert (ofNat f.2)) ∅

/-- A word within one hexadecimal digit is the word that the digit carries. -/
theorem nibble_eq_self {x : Flags t} (h : (ofNat 0x0F : Flags t).has x = true) : x.nibble = x := by
  refine ext_bits ?_
  rw [has, beq_iff_eq] at h
  rw [nibble, BitVec.and_comm]
  exact h

theorem nibble_erase (x m : Flags t) : (x.erase m).nibble = x.nibble.erase m := by
  refine ext_bits ?_
  rw [nibble, erase, erase, nibble, BitVec.and_assoc, BitVec.and_assoc,
    BitVec.and_comm (~~~m.bits)]

/-- What one hexadecimal digit carries of a word, as a number. -/
theorem toNat_nibble (x : Flags t) : x.nibble.toNat = x.toNat % 16 := by
  have hlt : x.bits.toNat % 16 < 2 ^ t.width := Nat.lt_of_le_of_lt (Nat.mod_le _ _) x.bits.isLt
  calc x.nibble.toNat
    _ = x.bits.toNat % 2 ^ t.width &&& 0xF % 2 ^ t.width := by
      rw [toNat, nibble, BitVec.toNat_and, BitVec.toNat_ofNat, Nat.mod_eq_of_lt x.bits.isLt]
    _ = (x.bits.toNat &&& 0xF) % 2 ^ t.width := (Nat.and_mod_two_pow ..).symm
    _ = x.bits.toNat % 16 % 2 ^ t.width := by rw [Nat.and_two_pow_sub_one_eq_mod x.bits.toNat 4]
    _ = x.bits.toNat % 16 := Nat.mod_eq_of_lt hlt

/-- A word that is no greater than one hexadecimal digit is the word that the digit carries. -/
theorem nibble_eq_of_toNat_le {x : Flags t} (h : x.toNat ≤ 0xF) : x.nibble = x := by
  refine ext_bits (BitVec.eq_of_toNat_eq ?_)
  show x.nibble.toNat = x.toNat
  rw [toNat_nibble, Nat.mod_eq_of_lt (Nat.lt_succ_of_le h)]

end DomeLink.Flags
