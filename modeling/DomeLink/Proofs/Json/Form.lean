import DomeLink.Flags.Json
import DomeLink.Proofs.FlagText
import DomeLink.Proofs.Json.Printer

/-!
# Values are read back from their JSON

A form is lawful if it reads every value back from what it writes, and writes plain JSON. The forms
of words, texts, enumerations and flag words are.
-/

namespace DomeLink

/-- The form reads back what it writes. -/
structure JsonForm.Lawful {α : Type} (form : JsonForm α) : Prop where
  reads : ∀ a, form.ofJson? (form.toJson a) = some a
  plain : ∀ a, (form.toJson a).Plain

namespace JsonForm

theorem intIn?_int {low high n : Int} (hlow : low ≤ n) (hhigh : n ≤ high) :
    (Json.int n).intIn? low high = some n :=
  if_pos ⟨hlow, hhigh⟩

/-- A word that is written as its number is read back from it. -/
theorem map_intIn?_natCast {α : Type} (ofNat : Nat → α) {n : Nat} {high : Int}
    (h : (n : Int) ≤ high) :
    ((Json.int n).intIn? 0 high).map (fun i => ofNat i.toNat) = some (ofNat n) := by
  rw [intIn?_int (Int.natCast_nonneg n) h]
  rfl

theorem lawful_uint8 : uint8.Lawful where
  reads n := by
    have hread := map_intIn?_natCast UInt8.ofNat
      (show (n.toNat : Int) ≤ 255 by have := n.toNat_lt; omega)
    rwa [UInt8.ofNat_toNat] at hread
  plain _ := trivial

theorem lawful_uint16 : uint16.Lawful where
  reads n := by
    have hread := map_intIn?_natCast UInt16.ofNat
      (show (n.toNat : Int) ≤ 65535 by have := n.toNat_lt; omega)
    rwa [UInt16.ofNat_toNat] at hread
  plain _ := trivial

theorem lawful_uint32 : uint32.Lawful where
  reads n := by
    have hread := map_intIn?_natCast UInt32.ofNat
      (show (n.toNat : Int) ≤ 4294967295 by have := n.toNat_lt; omega)
    rwa [UInt32.ofNat_toNat] at hread
  plain _ := trivial

theorem lawful_uint64 : uint64.Lawful where
  reads n := by
    have hread := map_intIn?_natCast UInt64.ofNat
      (show (n.toNat : Int) ≤ 18446744073709551615 by have := n.toNat_lt; omega)
    rwa [UInt64.ofNat_toNat] at hread
  plain _ := trivial

theorem lawful_int16 : int16.Lawful where
  reads n := by
    have hlow := n.le_toInt
    have hhigh := n.toInt_lt
    simp only [int16, intIn?_int (show (-32768 : Int) ≤ n.toInt by omega)
      (show n.toInt ≤ 32767 by omega)]
    simp
  plain _ := trivial

theorem lawful_string : string.Lawful where
  reads _ := rfl
  plain s := ⟨s, rfl⟩

theorem lawful_choice {α : Type} {name : α → String} {ofName? : String → Option α}
    (h : ∀ a, ofName? (name a) = some a) : (choice name ofName?).Lawful where
  reads := h
  plain a := ⟨name a, rfl⟩

theorem lawful_eht : eht.Lawful := lawful_choice fun mode => by cases mode <;> decide

theorem lawful_flags {t : FlagTable} (h : t.Readable) : (flags (t := t)).Lawful where
  reads := Flags.ofText?_toText h
  plain x := ⟨x.toText, rfl⟩

end JsonForm

end DomeLink
