import DomeLink.Command.Change
import DomeLink.Proofs.Flags
import DomeLink.Proofs.Outcome

/-!
# Lists of changes

A list of changes succeeds exactly when every change of it passes its check, and then the changes
are made one after the other. So what every checked change preserves, every list preserves
(`changeAll_preserves`). Otherwise the list gives the fault of the first change that fails its
check (`changeAll_append_cons_of_error`), and one that fails has a first (`exists_first_fault`).
-/

namespace DomeLink

theorem Quantity.check_eq_ok {q : Quantity} {value : Int} :
    q.check value = .ok () ↔ q.low ≤ value ∧ value ≤ q.high := by
  unfold Quantity.check
  split
  · rename_i h
    exact ⟨fun _ => h, fun _ => rfl⟩
  · rename_i h
    exact iff_of_false nofun h

namespace Command

/-! ## Making changes -/

theorem change_eq_ok {c c' : Command} {m : Change} :
    c.change m = .ok c' ↔ m.check = .ok () ∧ c.make m = c' := by
  unfold change
  rw [bind_eq_ok]
  constructor
  · rintro ⟨_, hcheck, h⟩
    exact ⟨hcheck, Except.ok.inj h⟩
  · rintro ⟨hcheck, rfl⟩
    exact ⟨(), hcheck, rfl⟩

theorem changeAll_nil_eq_ok {c c' : Command} : c.changeAll [] = .ok c' ↔ c = c' :=
  ⟨fun h => Except.ok.inj h, fun h => congrArg Except.ok h⟩

theorem changeAll_cons_eq_ok {c c' : Command} {m : Change} {ms : List Change} :
    c.changeAll (m :: ms) = .ok c' ↔ m.check = .ok () ∧ (c.make m).changeAll ms = .ok c' := by
  unfold changeAll
  rw [List.foldlM_cons, bind_eq_ok]
  constructor
  · rintro ⟨c₁, hc, h⟩
    obtain ⟨hcheck, rfl⟩ := change_eq_ok.1 hc
    exact ⟨hcheck, h⟩
  · rintro ⟨hcheck, h⟩
    exact ⟨c.make m, change_eq_ok.2 ⟨hcheck, rfl⟩, h⟩

/-- What every checked change preserves, a list of changes preserves. -/
theorem changeAll_preserves {P : Command → Prop}
    (hmake : ∀ c m, m.check = .ok () → P c → P (c.make m)) {c c' : Command} {ms : List Change}
    (h : c.changeAll ms = .ok c') (hc : P c) : P c' := by
  induction ms generalizing c with
  | nil =>
    rw [← changeAll_nil_eq_ok.1 h]
    exact hc
  | cons m ms ih =>
    obtain ⟨hcheck, hrest⟩ := changeAll_cons_eq_ok.1 h
    exact ih hrest (hmake c m hcheck hc)

/-- A list of changes fails with the fault of the first change that fails its check. -/
theorem changeAll_append_cons_of_error {m : Change} {e : Fault} (hm : m.check = .error e)
    {done : List Change} (hdone : ∀ m' ∈ done, m'.check = .ok ()) (rest : List Change)
    (c : Command) : c.changeAll (done ++ m :: rest) = .error e := by
  induction done generalizing c with
  | nil => simp only [List.nil_append, changeAll, List.foldlM_cons, change, hm, error_bind]
  | cons d ds ih =>
    have hd : d.check = .ok () := hdone d List.mem_cons_self
    have htail := ih (fun m' hm' => hdone m' (List.mem_cons_of_mem d hm')) (c.make d)
    simp only [changeAll] at htail
    simp only [List.cons_append, changeAll, List.foldlM_cons, change, hd, ok_bind]
    exact htail

/-- A list with a change that fails its check has a first one that does. -/
theorem exists_first_fault {ms : List Change} (h : ∃ m ∈ ms, m.check ≠ .ok ()) :
    ∃ done m rest e, ms = done ++ m :: rest ∧ (∀ m' ∈ done, m'.check = .ok ()) ∧
      m.check = .error e := by
  induction ms with
  | nil =>
    obtain ⟨m, hm, _⟩ := h
    cases hm
  | cons d ds ih =>
    cases hd : d.check with
    | error e => exact ⟨[], d, ds, e, rfl, nofun, hd⟩
    | ok u =>
      obtain ⟨m, hm, hfault⟩ := h
      rcases List.mem_cons.1 hm with rfl | hm
      · exact absurd hd hfault
      · obtain ⟨done, m', rest, e, rfl, hdone, he⟩ := ih ⟨m, hm, hfault⟩
        exact ⟨d :: done, m', rest, e, rfl, List.forall_mem_cons.2 ⟨hd, hdone⟩, he⟩

/-! ## Flags erased under a condition -/

variable {t : FlagTable}

@[simp] theorem has_eraseWhen_self {x m : Flags t} (on : Bool) (h : m.meets m = true) :
    (eraseWhen x m on).has m = (x.has m && !on) := by
  cases on with
  | false => exact (Bool.and_true _).symm
  | true => exact (Flags.has_erase_of_meets h).trans (Bool.and_false _).symm

@[simp] theorem has_eraseWhen_of_disjoint {x m n : Flags t} (on : Bool) (h : n.meets m = false) :
    (eraseWhen x m on).has n = x.has n := by
  cases on with
  | false => rfl
  | true => exact Flags.has_erase_of_disjoint h

theorem has_of_eraseWhen {x y : Flags t} (m : Flags t) (on : Bool) (hy : x.has y = true) :
    x.has (eraseWhen y m on) = true := by
  cases on with
  | false => exact hy
  | true => exact Flags.has_of_erase m hy

end Command

end DomeLink
