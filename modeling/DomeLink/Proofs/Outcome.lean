/-!
# Computations that can fail

Rules for `do` blocks in `Except`: a block succeeds exactly when every step of it does, so a
success can be taken apart step by step, and a block can be run along the steps that succeed. A
guard that throws is such a step: it succeeds exactly where it does not throw.
-/

namespace DomeLink

variable {ε α β : Type}

@[simp] theorem ok_bind (a : α) (f : α → Except ε β) : (Except.ok a >>= f) = f a := rfl

@[simp] theorem error_bind (e : ε) (f : α → Except ε β) :
    ((Except.error e : Except ε α) >>= f) = .error e := rfl

@[simp] theorem map_ok (f : α → β) (a : α) : (f <$> (Except.ok a : Except ε α)) = .ok (f a) := rfl

theorem bind_eq_ok {x : Except ε α} {f : α → Except ε β} {b : β} :
    (x >>= f) = .ok b ↔ ∃ a, x = .ok a ∧ f a = .ok b := by
  cases x with
  | error e =>
    constructor
    · intro h
      cases h
    · rintro ⟨a, h, -⟩
      cases h
  | ok a =>
    constructor
    · intro h
      exact ⟨a, rfl, h⟩
    · rintro ⟨a', h, hf⟩
      cases h
      exact hf

theorem map_eq_ok {x : Except ε α} {f : α → β} {b : β} :
    f <$> x = .ok b ↔ ∃ a, x = .ok a ∧ f a = b := by
  cases x with
  | error e => exact iff_of_false nofun fun ⟨_, h, _⟩ => nomatch h
  | ok a =>
    constructor
    · intro h
      exact ⟨a, rfl, Except.ok.inj h⟩
    · rintro ⟨a', h, rfl⟩
      rw [h]
      rfl

/-- A mapped computation has a value if the computation has one. -/
theorem exists_map_iff {x : Except ε α} {f : α → β} :
    (∃ b, f <$> x = .ok b) ↔ ∃ a, x = .ok a := by
  constructor
  · rintro ⟨b, h⟩
    obtain ⟨a, ha, -⟩ := map_eq_ok.1 h
    exact ⟨a, ha⟩
  · rintro ⟨a, ha⟩
    exact ⟨f a, map_eq_ok.2 ⟨a, ha, rfl⟩⟩

theorem map_bind {γ : Type} (x : Except ε α) (f : α → β) (g : β → Except ε γ) :
    (f <$> x >>= g) = (x >>= fun a => g (f a)) := by
  cases x <;> rfl

theorem mapError_eq_ok {ε' : Type} {x : Except ε α} {f : ε → ε'} {a : α} :
    x.mapError f = .ok a ↔ x = .ok a := by
  cases x with
  | error e => exact iff_of_false nofun nofun
  | ok b =>
    exact ⟨fun h => congrArg Except.ok (Except.ok.inj h),
      fun h => congrArg Except.ok (Except.ok.inj h)⟩

/-- A check before a block: the block succeeds if the check does and it does. -/
theorem check_bind_eq_ok {x : Except ε Unit} {f : Unit → Except ε β} {b : β} :
    (x >>= f) = .ok b ↔ x = .ok () ∧ f () = .ok b :=
  bind_eq_ok.trans ⟨fun ⟨_, h⟩ => h, fun h => ⟨(), h⟩⟩

theorem bind_eq_error {x : Except ε α} {f : α → Except ε β} {e : ε} :
    (x >>= f) = .error e ↔ x = .error e ∨ ∃ a, x = .ok a ∧ f a = .error e := by
  cases x with
  | error e' =>
    constructor
    · intro h
      exact .inl (congrArg Except.error (Except.error.inj h))
    · rintro (h | ⟨a, h, -⟩)
      · exact congrArg Except.error (Except.error.inj h)
      · cases h
  | ok a =>
    constructor
    · intro h
      exact .inr ⟨a, rfl, h⟩
    · rintro (h | ⟨a', h, hf⟩)
      · cases h
      · cases h
        exact hf

/-! ## Ways to fail -/

/-- The computation fails in one of these ways, if it fails. -/
def FailsWith (P : ε → Prop) (x : Except ε α) : Prop := ∀ e, x = .error e → P e

section

variable {P Q : ε → Prop} {x : Except ε α}

theorem failsWith_ok (a : α) : FailsWith P (.ok a : Except ε α) := nofun

theorem failsWith_error {e : ε} (h : P e) : FailsWith P (.error e : Except ε α) := by
  rintro _ ⟨⟩
  exact h

theorem FailsWith.mono (hx : FailsWith P x) (h : ∀ e, P e → Q e) : FailsWith Q x :=
  fun e he => h e (hx e he)

/-- One step after another. -/
theorem FailsWith.bind {f : α → Except ε β} (hx : FailsWith P x)
    (hf : ∀ a, x = .ok a → FailsWith P (f a)) : FailsWith P (x >>= f) := by
  intro e h
  rcases bind_eq_error.1 h with he | ⟨a, ha, he⟩
  · exact hx e he
  · exact hf a ha e he

theorem FailsWith.map (hx : FailsWith P x) (f : α → β) : FailsWith P (f <$> x) := by
  cases x with
  | ok a => exact failsWith_ok (f a)
  | error e => exact failsWith_error (hx e rfl)

end

/-! ## Guards -/

section

variable {p : Prop} [Decidable p] {e : ε}

/-- A guard that refuses: the block succeeds if the condition fails and the rest succeeds. -/
theorem refuse_eq_ok {x : Except ε β} {b : β} :
    (if p then (throw e : Except ε Unit) >>= fun _ => x else x) = .ok b ↔ ¬ p ∧ x = .ok b := by
  by_cases hp : p
  · rw [if_pos hp]
    exact iff_of_false nofun fun h => h.1 hp
  · rw [if_neg hp]
    exact (and_iff_right hp).symm

/-- A guard that demands: the block succeeds if the condition holds and the rest succeeds. -/
theorem demand_eq_ok {x : Except ε β} {b : β} :
    (if p then x else (throw e : Except ε Unit) >>= fun _ => x) = .ok b ↔ p ∧ x = .ok b := by
  by_cases hp : p
  · rw [if_pos hp]
    exact (and_iff_right hp).symm
  · rw [if_neg hp]
    exact iff_of_false nofun fun h => hp h.1

theorem refuse_eq_error {x : Except ε β} {e' : ε} :
    (if p then (throw e : Except ε Unit) >>= fun _ => x else x) = .error e' ↔
      p ∧ e = e' ∨ ¬ p ∧ x = .error e' := by
  by_cases hp : p
  · rw [if_pos hp]
    simp only [hp, true_and, not_true_eq_false, false_and, or_false]
    exact ⟨fun h => Except.error.inj h, fun h => congrArg Except.error h⟩
  · rw [if_neg hp]
    simp only [hp, false_and, not_false_eq_true, true_and, false_or]

theorem demand_eq_error {x : Except ε β} {e' : ε} :
    (if p then x else (throw e : Except ε Unit) >>= fun _ => x) = .error e' ↔
      ¬ p ∧ e = e' ∨ p ∧ x = .error e' := by
  by_cases hp : p
  · rw [if_pos hp]
    simp only [hp, not_true_eq_false, false_and, true_and, false_or]
  · rw [if_neg hp]
    simp only [hp, not_false_eq_true, true_and, false_and, or_false]
    exact ⟨fun h => Except.error.inj h, fun h => congrArg Except.error h⟩

/-- A guard that refuses at the end of a block. -/
theorem refuse_last_eq_ok : (if p then throw e else pure () : Except ε Unit) = .ok () ↔ ¬ p := by
  by_cases hp : p
  · rw [if_pos hp]
    exact iff_of_false nofun fun h => h hp
  · rw [if_neg hp]
    exact iff_of_true rfl hp

end

end DomeLink
