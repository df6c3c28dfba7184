import DomeLink.Proofs.Flags
import DomeLink.Proofs.Numeral
import Mathlib.Data.List.Nodup

/-!
# Flag words are read back from their text

The text of a flag word names its set flags and gives the bits without a name as one numeral. For a
table whose names can be told apart (`FlagTable.Readable`) every word of the width is read back from
its text, with or without bits that have no name (`ofText?_toText`).

Reading takes the text apart again (`map_trim_splitAt`), each piece of it stands for the flags that
it was written for (`ofPiece?_of_mem_parts`), and these make up the word (`foldl_insert_parts`).
-/

namespace DomeLink

namespace Text

variable {p b b' cs : List Char}

/-! ## Pieces between separators -/

/-- Characters that stay together in a text: none is a blank or the separator, and there is one. -/
structure Bare (p : List Char) : Prop where
  ne_nil : p ≠ []
  char : ∀ c ∈ p, isBlank c = false ∧ c ≠ '|'

theorem bare_iff :
    Bare p ↔ p.isEmpty = false ∧ p.all (fun c => !isBlank c && c ≠ '|') = true := by
  rw [List.isEmpty_eq_false_iff, List.all_eq_true]
  simp only [Bool.and_eq_true, Bool.not_eq_true', decide_eq_true_eq]
  exact ⟨fun h => ⟨h.ne_nil, h.char⟩, fun h => ⟨h.1, h.2⟩⟩

instance : Decidable (Bare p) := decidable_of_iff _ bare_iff.symm

theorem trim_eq_self (hp : Bare p) (hb : ∀ c ∈ b, isBlank c = true)
    (hb' : ∀ c ∈ b', isBlank c = true) : trim (b ++ (p ++ b')) = p := by
  have hdrop {q : List Char} (hne : q ≠ []) (hq : ∀ c ∈ q, isBlank c = false) (r : List Char) :
      (q ++ r).dropWhile isBlank = q ++ r := by
    obtain ⟨c, q, rfl⟩ := List.exists_cons_of_ne_nil hne
    exact List.dropWhile_cons_of_neg (Bool.eq_false_iff.1 (hq c List.mem_cons_self))
  have hback := hdrop (q := p.reverse) (mt List.reverse_eq_nil_iff.1 hp.ne_nil)
    (fun c hc => (hp.char c (List.mem_reverse.1 hc)).1) []
  rw [trim, List.dropWhile_append_of_pos hb, hdrop hp.ne_nil fun c hc => (hp.char c hc).1, trimRight,
    List.reverse_append, List.dropWhile_append_of_pos fun c hc => hb' c (List.mem_reverse.1 hc)]
  rw [List.append_nil] at hback
  rw [hback, List.reverse_reverse]

theorem splitAt_of_not_mem {sep : Char} (h : sep ∉ cs) : splitAt sep cs = [cs] := by
  induction cs with
  | nil => rfl
  | cons c cs ih =>
    rw [List.mem_cons, not_or] at h
    rw [splitAt, if_neg (Ne.symm h.1), ih h.2]

theorem splitAt_append {sep : Char} (h : sep ∉ cs) (ds : List Char) :
    splitAt sep (cs ++ sep :: ds) = cs :: splitAt sep ds := by
  induction cs with
  | nil => exact if_pos rfl
  | cons c cs ih =>
    rw [List.mem_cons, not_or] at h
    rw [List.cons_append, splitAt, if_neg (Ne.symm h.1), ih h.2]

/-- Bare pieces with separators and blanks between them are found again. -/
theorem map_trim_splitAt (hb : ∀ c ∈ b, isBlank c = true ∧ c ≠ '|') {ps : List (List Char)}
    (h : ∀ q ∈ p :: ps, Bare q) :
    (splitAt '|' (b ++ [' ', '|', ' '].intercalate (p :: ps))).map trim = p :: ps := by
  induction ps generalizing p b with
  | nil =>
    have hp := h p List.mem_cons_self
    have hmem : '|' ∉ b ++ p := by
      rw [List.mem_append, not_or]
      exact ⟨fun hc => (hb _ hc).2 rfl, fun hc => (hp.char _ hc).2 rfl⟩
    have htrim := trim_eq_self hp (fun c hc => (hb c hc).1) (List.forall_mem_nil _)
    rw [List.append_nil] at htrim
    rw [List.intercalate_singleton, splitAt_of_not_mem hmem, List.map_singleton, htrim]
  | cons q ps ih =>
    have hp := h p List.mem_cons_self
    have hmem : '|' ∉ b ++ (p ++ [' ']) := by
      rw [List.mem_append, List.mem_append, not_or, not_or]
      exact ⟨fun hc => (hb _ hc).2 rfl, fun hc => (hp.char _ hc).2 rfl, by decide⟩
    have hblank : ∀ c ∈ [' '], isBlank c = true ∧ c ≠ '|' :=
      List.forall_mem_singleton.2 ⟨rfl, by decide⟩
    have htrim := trim_eq_self hp (fun c hc => (hb c hc).1) fun c hc => (hblank c hc).1
    have hsplit : b ++ (p ++ [' ', '|', ' '] ++ [' ', '|', ' '].intercalate (q :: ps)) =
        (b ++ (p ++ [' '])) ++ '|' :: ([' '] ++ [' ', '|', ' '].intercalate (q :: ps)) := by
      simp
    rw [List.intercalate_cons_cons, hsplit, splitAt_append hmem, List.map_cons, htrim,
      ih hblank fun r hr => h r (List.mem_cons_of_mem p hr)]

/-- A text that starts with a character other than a blank is not blank. -/
theorem trim_ne_nil {c : Char} (h : isBlank c = false) (cs : List Char) : trim (c :: cs) ≠ [] := by
  rw [trim, List.dropWhile_cons_of_neg (Bool.eq_false_iff.1 h), trimRight, ne_eq,
    List.reverse_eq_nil_iff]
  intro hnil
  have hany := List.any_dropWhile (p := isBlank) (l := (c :: cs).reverse)
  rw [hnil, List.any_nil, List.all_reverse, List.all_cons, h] at hany
  cases hany

theorem trim_intercalate_ne_nil (sep : List Char) {ps : List (List Char)}
    (h : ∀ q ∈ p :: ps, Bare q) : trim (sep.intercalate (p :: ps)) ≠ [] := by
  have hp := h p List.mem_cons_self
  obtain ⟨c, q, rfl⟩ := List.exists_cons_of_ne_nil hp.ne_nil
  have hc := (hp.char c List.mem_cons_self).1
  cases ps with
  | nil =>
    rw [List.intercalate_singleton]
    exact trim_ne_nil hc q
  | cons r ps =>
    rw [List.intercalate_cons_cons]
    exact trim_ne_nil hc _

end Text

/-- Where no two have the same key, the one with a given key is found. -/
theorem List.find?_of_nodup_map {α β : Type} [DecidableEq β] {f : α → β} {l : List α}
    (h : (l.map f).Nodup) {a : α} (ha : a ∈ l) : (l.find? fun b => f b = f a) = some a := by
  cases hfind : l.find? fun b => f b = f a with
  | none =>
    have := List.find?_eq_none.1 hfind a ha
    simp at this
  | some b =>
    have hkey : f b = f a := by simpa using List.find?_some hfind
    rw [List.inj_on_of_nodup_map h (List.mem_of_find?_eq_some hfind) ha hkey]

/-- The names of the table can be told apart, from each other and from numerals. -/
structure FlagTable.Readable (t : FlagTable) : Prop where
  nodup : (t.names.map fun f => f.1.toList).Nodup
  bare : ∀ f ∈ t.names, Text.Bare f.1.toList
  noNumeral : ∀ f ∈ t.names, f.1.toList.head? ≠ some '0'

instance (t : FlagTable) : Decidable t.Readable :=
  decidable_of_iff ((t.names.map fun f => f.1.toList).Nodup ∧
      (∀ f ∈ t.names, Text.Bare f.1.toList) ∧ ∀ f ∈ t.names, f.1.toList.head? ≠ some '0')
    ⟨fun h => ⟨h.1, h.2.1, h.2.2⟩, fun h => ⟨h.nodup, h.bare, h.noNumeral⟩⟩

namespace Flags

variable {t : FlagTable} {x : Flags t}

/-! ## The parts of a word -/

theorem getLsbD_foldl_insert (ms : List (Flags t)) (x : Flags t) (i : Nat) :
    (ms.foldl insert x).bits.getLsbD i =
      (x.bits.getLsbD i || ms.any fun m => m.bits.getLsbD i) := by
  induction ms generalizing x with
  | nil => simp
  | cons m ms ih => rw [List.foldl_cons, ih, getLsbD_insert, List.any_cons, Bool.or_assoc]

theorem getLsbD_foldl_erase (ms : List (Flags t)) (x : Flags t) (i : Nat) :
    (ms.foldl erase x).bits.getLsbD i =
      (x.bits.getLsbD i && !ms.any fun m => m.bits.getLsbD i) := by
  induction ms generalizing x with
  | nil => simp
  | cons m ms ih =>
    rw [List.foldl_cons, ih, getLsbD_erase, List.any_cons, Bool.not_or, Bool.and_assoc]

/-- The pieces of the text, each with the flags that it stands for. -/
def parts (x : Flags t) : List (String × Flags t) :=
  (x.setNames.map fun f => (f.1, ofNat f.2)) ++
    if x.unnamed.isEmpty then [] else [("0x" ++ Text.lowerHex 1 x.unnamed.toNat, x.unnamed)]

theorem pieces_eq (x : Flags t) : x.pieces = x.parts.map Prod.fst := by
  unfold pieces parts
  split <;> simp

/-- A word is what its parts make up. -/
theorem foldl_insert_parts (x : Flags t) : (x.parts.map Prod.snd).foldl insert ∅ = x := by
  have hparts : x.parts.map Prod.snd = x.setNames.map (fun f => ofNat f.2) ++
      if x.unnamed.isEmpty then [] else [x.unnamed] := by
    unfold parts
    split <;> simp [Function.comp_def]
  have hunnamed : x.unnamed = (x.setNames.map fun f => ofNat f.2).foldl erase x := by
    rw [unnamed, List.foldl_map]
  have hset : ∀ i, ((x.setNames.map fun f => (ofNat f.2 : Flags t)).any fun m =>
      m.bits.getLsbD i) = true → x.bits.getLsbD i = true := by
    intro i h
    obtain ⟨m, hm, hi⟩ := List.any_eq_true.1 h
    obtain ⟨f, hf, rfl⟩ := List.mem_map.1 hm
    exact has_iff.1 (List.mem_filter.1 hf).2 i hi
  -- Each bit that is set is one of a named flag that is set, or is left to the rest.
  refine ext_bits (BitVec.eq_of_getLsbD_eq fun i _ => ?_)
  have hrest : ((if x.unnamed.isEmpty then [] else [x.unnamed]).any fun m : Flags t =>
      m.bits.getLsbD i) = x.unnamed.bits.getLsbD i := by
    split
    · rename_i h
      rw [beq_iff_eq.1 h]
      exact BitVec.getLsbD_zero.symm
    · exact Bool.or_false _
  rw [hparts, getLsbD_foldl_insert, List.any_append, hrest, hunnamed, getLsbD_foldl_erase,
    getLsbD_empty, Bool.false_or]
  cases h : (x.setNames.map fun f => (ofNat f.2 : Flags t)).any fun m => m.bits.getLsbD i with
  | true => rw [hset i h]; rfl
  | false => simp

theorem ofNat_toNat (x : Flags t) : (ofNat x.toNat : Flags t) = x :=
  ext_bits (by rw [ofNat, toNat, BitVec.ofNat_toNat, BitVec.setWidth_eq])

/-! ## The pieces of a text -/

/-- A numeral is a piece of its own. -/
theorem toList_numeral (n : Nat) :
    ("0x" ++ Text.lowerHex 1 n).toList = '0' :: 'x' :: Nat.toDigits 16 n := by
  have hlen : 1 - (Nat.toDigits 16 n).length = 0 :=
    Nat.sub_eq_zero_of_le (List.length_pos_iff.2 (Text.toDigits_ne_nil (by decide) n))
  simp [Text.lowerHex, Text.padZeros, hlen]

theorem bare_numeral (n : Nat) : Text.Bare ("0x" ++ Text.lowerHex 1 n).toList := by
  rw [toList_numeral]
  refine ⟨List.cons_ne_nil _ _, ?_⟩
  rw [List.forall_mem_cons, List.forall_mem_cons]
  refine ⟨by decide, by decide, fun c hc => ?_⟩
  have hdigit : ∀ d < 16, Text.isBlank (Nat.digitChar d) = false ∧ Nat.digitChar d ≠ '|' := by
    decide
  obtain ⟨d, hd, rfl⟩ := Text.exists_digit_of_mem (by decide) hc
  exact hdigit d hd

theorem ofPiece?_numeral (x : Flags t) :
    ofPiece? ("0x" ++ Text.lowerHex 1 x.toNat).toList = some x := by
  have hnumeral : hexNumeral? (Nat.toDigits 16 x.toNat) = some x.toNat := by
    rw [← hexDigits?_toDigits x.toNat]
    unfold hexNumeral?
    split
    · rename_i cs hcs
      obtain ⟨d, hd, hplus⟩ := Text.exists_digit_of_mem (b := 16) (by decide)
        (hcs ▸ List.mem_cons_self : '+' ∈ Nat.toDigits 16 x.toNat)
      have hdigit : ∀ d < 16, '+' ≠ Nat.digitChar d := by decide
      exact absurd hplus (hdigit d hd)
    · rfl
  rw [toList_numeral, ofPiece?]
  simp only [hnumeral, if_pos (show x.toNat < t.size from x.bits.isLt), ofNat_toNat]

/-- A name of the table stands for its flag. -/
theorem ofPiece?_name (h : t.Readable) {f : String × Nat} (hf : f ∈ t.names) :
    (ofPiece? f.1.toList : Option (Flags t)) = some (ofNat f.2) := by
  have hfind := List.find?_of_nodup_map (f := fun g : String × Nat => g.1.toList) h.nodup hf
  unfold ofPiece?
  split
  · rename_i hcs
    exact absurd (congrArg List.head? hcs) (h.noNumeral f hf)
  · rw [hfind]
    rfl

/-- A part of a word is one of its named flags, or the rest as a numeral. -/
theorem mem_parts {part : String × Flags t} (h : part ∈ x.parts) :
    (∃ f ∈ t.names, part = (f.1, ofNat f.2)) ∨
      part = ("0x" ++ Text.lowerHex 1 x.unnamed.toNat, x.unnamed) := by
  rcases List.mem_append.1 h with h | h
  · obtain ⟨f, hf, rfl⟩ := List.mem_map.1 h
    exact .inl ⟨f, List.mem_of_mem_filter hf, rfl⟩
  · split at h
    · cases h
    · exact .inr (List.mem_singleton.1 h)

theorem bare_of_mem_parts (h : t.Readable) {part : String × Flags t} (hpart : part ∈ x.parts) :
    Text.Bare part.1.toList := by
  rcases mem_parts hpart with ⟨f, hf, rfl⟩ | rfl
  · exact h.bare f hf
  · exact bare_numeral _

theorem ofPiece?_of_mem_parts (h : t.Readable) {part : String × Flags t} (hpart : part ∈ x.parts) :
    ofPiece? part.1.toList = some part.2 := by
  rcases mem_parts hpart with ⟨f, hf, rfl⟩ | rfl
  · exact ofPiece?_name h hf
  · exact ofPiece?_numeral _

/-- Pieces that stand for flags are read as all of them together. -/
theorem foldlM_pieces {parts : List (String × Flags t)}
    (h : ∀ part ∈ parts, ofPiece? part.1.toList = some part.2) (y : Flags t) :
    (parts.map fun part => part.1.toList).foldlM (fun y cs => (ofPiece? cs).map y.insert) y =
      some ((parts.map Prod.snd).foldl insert y) := by
  induction parts generalizing y with
  | nil => rfl
  | cons part parts ih =>
    rw [List.forall_mem_cons] at h
    rw [List.map_cons, List.foldlM_cons, h.1]
    exact ih h.2 (y.insert part.2)

theorem toList_toText (x : Flags t) :
    x.toText.toList = [' ', '|', ' '].intercalate (x.parts.map fun part => part.1.toList) := by
  rw [toText, String.toList_intercalate, pieces_eq, List.map_map]
  rfl

/-- **Every flag word is read back from its text.** -/
theorem ofText?_toText (h : t.Readable) (x : Flags t) : ofText? x.toText = some x := by
  have hpieces : ∀ part ∈ x.parts, ofPiece? part.1.toList = some part.2 :=
    fun part hpart => ofPiece?_of_mem_parts h hpart
  have hfold := foldlM_pieces hpieces ∅
  have hword := x.foldl_insert_parts
  have hbare : ∀ p ∈ x.parts.map (fun part => part.1.toList), Text.Bare p := by
    intro p hp
    obtain ⟨part, hpart, rfl⟩ := List.mem_map.1 hp
    exact bare_of_mem_parts h hpart
  unfold ofText?
  rw [toList_toText]
  cases hparts : x.parts with
  | nil =>
    rw [hparts] at hword
    rw [← hword]
    rfl
  | cons part parts =>
    rw [hparts, List.map_cons] at hfold hbare
    have hsplit := Text.map_trim_splitAt (b := []) nofun hbare
    rw [List.nil_append] at hsplit
    have hblank := mt List.isEmpty_iff.1 (Text.trim_intercalate_ne_nil [' ', '|', ' '] hbare)
    have hmap (pieces : List (List Char)) :
        pieces.foldlM (fun y cs => (ofPiece? (Text.trim cs)).map y.insert) (∅ : Flags t) =
          (pieces.map Text.trim).foldlM (fun y cs => (ofPiece? cs).map y.insert) ∅ := by
      rw [List.foldlM_map]
    rw [List.map_cons, if_neg hblank, hmap, hsplit, hfold, ← hparts, hword]

end Flags

end DomeLink
