import DomeLink.Proofs.Wire.Damage
import Mathlib.Logic.ExistsUnique

/-!
# The check field, written and verified

A place for a check field is two characters between a content that starts with `@` and a tail, which
is the end delimiter with or without a carriage return (`Checksum.Parts`). `offset?` finds the place
exactly if there is one. `update` writes the check value of the content into it and `verify` looks
for just that value there, so the two agree about every frame, and writing moves no place.

The frames that pass are therefore known by their content and their tail, and each of these is known
from the other bytes of the frame. That leaves no frame that passes one byte away from another.

* `Parts.update_eq`, `Parts.verify_iff`: both operations in terms of the parts.
* `update_seals`: what `update` does to any bytes, and how it agrees with `verify`.
* `verify_eq_false_of_changed`: one wrong byte is found, wherever it is.
-/

namespace DomeLink

open Bytes (start stop cr)

namespace Bytes

variable {sent received us vs : Bytes} {a b : UInt8}

/-- Bytes that differ at one place agree at all others. -/
theorem getElem?_append_cons_of_ne {i : Nat} (hi : i ≠ us.length) :
    (us ++ a :: vs)[i]? = (us ++ b :: vs)[i]? := by
  rcases Nat.lt_or_gt_of_ne hi with hlt | hgt
  · rw [List.getElem?_append_left hlt, List.getElem?_append_left hlt]
  · obtain ⟨k, rfl⟩ := Nat.exists_eq_add_of_lt hgt
    have hplace : us.length + k + 1 - us.length = k + 1 := by omega
    rw [List.getElem?_append_right (by omega), List.getElem?_append_right (by omega), hplace,
      List.getElem?_cons_succ, List.getElem?_cons_succ]

/-- **One byte has arrived as another** exactly if the lengths agree and all places but one do. -/
theorem damaged_iff :
    Damaged sent received ↔
      sent.length = received.length ∧ ∃! i : Nat, sent[i]? ≠ received[i]? := by
  constructor
  · rintro ⟨us, a, b, vs, hne, rfl, rfl⟩
    refine ⟨by rw [List.length_append, List.length_append]; rfl, us.length, ?_, fun i hi => ?_⟩
    · show (us ++ a :: vs)[us.length]? ≠ (us ++ b :: vs)[us.length]?
      rw [List.getElem?_append_right (Nat.le_refl _), List.getElem?_append_right (Nat.le_refl _),
        Nat.sub_self]
      exact fun heq => hne (Option.some.inj heq)
    · exact Decidable.byContradiction fun hplace => hi (getElem?_append_cons_of_ne hplace)
  · rintro ⟨hlen, i, hi, hunique⟩
    have hlt : i < sent.length := by
      refine Nat.lt_of_not_le fun hge => hi ?_
      rw [List.getElem?_eq_none hge, List.getElem?_eq_none (hlen ▸ hge)]
    have hlt' : i < received.length := hlen ▸ hlt
    have hsame {j : Nat} (hj : j ≠ i) : sent[j]? = received[j]? :=
      Decidable.byContradiction fun hne => hj (hunique j hne)
    have htake : sent.take i = received.take i := by
      refine List.ext_getElem? fun j => ?_
      rw [List.getElem?_take, List.getElem?_take]
      split
      · exact hsame (by omega)
      · rfl
    have hdrop : sent.drop (i + 1) = received.drop (i + 1) := by
      refine List.ext_getElem? fun j => ?_
      rw [List.getElem?_drop, List.getElem?_drop]
      exact hsame (by omega)
    refine ⟨sent.take i, sent[i], received[i], sent.drop (i + 1), ?_, ?_, ?_⟩
    · rw [List.getElem?_eq_getElem hlt, List.getElem?_eq_getElem hlt'] at hi
      exact fun heq => hi (congrArg some heq)
    · rw [List.getElem_cons_drop, List.take_append_drop]
    · rw [htake, hdrop, List.getElem_cons_drop, List.take_append_drop]

end Bytes

namespace Checksum

variable {frame content field tail : Bytes} {offset : Nat}

/-! ## The parts of a frame -/

/-- **A frame with a place for a check field**: the content from `@` on, the two characters of the
field, and the end delimiter with or without a carriage return. -/
structure Parts (frame content field tail : Bytes) : Prop where
  frame_eq : frame = content ++ field ++ tail
  opened : content.head? = some start
  width : field.length = 2
  ended : tail = [stop] ∨ tail = [stop, cr]

theorem Parts.withoutCr (h : Parts frame content field tail) :
    frame.withoutCr = content ++ field ++ [stop] := by
  rw [h.frame_eq]
  rcases h.ended with rfl | rfl
  · rw [Bytes.withoutCr, List.getLast?_concat, if_neg (by decide)]
  · rw [List.append_cons _ stop, Bytes.withoutCr, List.getLast?_concat, if_pos rfl,
      List.dropLast_concat]

theorem Parts.offset? (h : Parts frame content field tail) :
    offset? frame = some content.length := by
  obtain ⟨bs, rfl⟩ := List.head?_eq_some_iff.1 h.opened
  have hlen : (start :: bs ++ field ++ [stop]).length = (start :: bs).length + 3 := by
    rw [List.length_append, List.length_append, h.width, List.length_singleton]
  have hroom : 4 ≤ (start :: bs).length + 3 := by
    rw [List.length_cons]
    omega
  simp only [Checksum.offset?, h.withoutCr, hlen]
  rw [if_pos ⟨hroom, rfl, List.getLast?_concat ..⟩, Nat.add_sub_cancel]

/-- **Where a place is found there is one.** -/
theorem exists_parts (h : offset? frame = some offset) :
    ∃ content field tail, Parts frame content field tail ∧ content.length = offset := by
  simp only [Checksum.offset?] at h
  split at h
  case isFalse => cases h
  case isTrue hbody =>
    obtain ⟨hlen, hhead, hlast⟩ := hbody
    obtain ⟨content, field, hwidth, heq⟩ := exists_field (by omega) hlast
    have hplace : frame.withoutCr.length = content.length + 3 := by
      rw [heq, List.length_append, List.length_append, hwidth, List.length_singleton]
    have hopened : content.head? = some start := by
      obtain ⟨b, bs, rfl⟩ := List.exists_cons_of_length_pos (l := content) (by omega)
      rw [heq] at hhead
      exact hhead
    have hends : ∃ tail, (tail = [stop] ∨ tail = [stop, cr]) ∧
        frame = content ++ field ++ tail := by
      unfold Bytes.withoutCr at heq
      split at heq
      case isTrue hcr =>
        obtain ⟨body, rfl⟩ := List.getLast?_eq_some_iff.1 hcr
        rw [List.dropLast_concat] at heq
        exact ⟨[stop, cr], .inr rfl, by rw [heq, List.append_assoc]; rfl⟩
      case isFalse => exact ⟨[stop], .inl rfl, heq⟩
    obtain ⟨tail, hended, hframe⟩ := hends
    refine ⟨content, field, tail, ⟨hframe, hopened, hwidth, hended⟩, ?_⟩
    rw [hplace] at h
    exact Option.some.inj h

theorem Parts.take (h : Parts frame content field tail) :
    frame.take content.length = content := by
  rw [h.frame_eq, List.append_assoc, List.take_left]

/-! ## Writing and verifying -/

/-- **Writing puts the check value of the content into the field.** -/
theorem Parts.update_eq (h : Parts frame content field tail) :
    update frame = content ++ chars (compute content) ++ tail := by
  have hdrop : frame.drop (content.length + 2) = tail := by
    have hlen : (content ++ field).length = content.length + 2 := by
      rw [List.length_append, h.width]
    rw [h.frame_eq, ← hlen, List.drop_left]
  simp only [update, h.offset?, h.take, hdrop]

theorem Parts.updated (h : Parts frame content field tail) :
    Parts (update frame) content (chars (compute content)) tail :=
  ⟨h.update_eq, h.opened, rfl, h.ended⟩

theorem update_of_undelimited (h : offset? frame = none) : update frame = frame := by
  simp only [update, h]

/-- **A frame passes exactly if its field is the check value of its content.** -/
theorem Parts.verify_iff (h : Parts frame content field tail) :
    verify frame = true ↔ field = chars (compute content) := by
  have hfield : (frame.drop content.length).take 2 = field := by
    rw [h.frame_eq, List.append_assoc, List.drop_left, ← h.width, List.take_left]
  have hstored : storedAndComputed? frame =
      (readField? field).map fun stored => (stored, compute content) := by
    simp only [storedAndComputed?, h.offset?, Option.bind_eq_bind, Option.bind_some, hfield, h.take]
    cases readField? field <;> rfl
  rw [← readField?_eq_some_iff h.width, verify, hstored]
  cases readField? field with
  | none => exact iff_of_false Bool.false_ne_true (Option.some_ne_none _).symm
  | some stored => exact beq_iff_eq.trans (Option.some_inj).symm

theorem exists_offset?_of_verify (h : verify frame = true) :
    ∃ offset, offset? frame = some offset := by
  cases hoffset : Checksum.offset? frame with
  | some offset => exact ⟨offset, rfl⟩
  | none =>
    simp only [verify, storedAndComputed?, hoffset, Option.bind_eq_bind, Option.bind_none] at h
    cases h

/-- What passes is a closed content, with or without a carriage return. -/
theorem exists_parts_of_verify (h : verify frame = true) :
    ∃ content tail, Parts frame content (chars (compute content)) tail := by
  obtain ⟨offset, hoffset⟩ := exists_offset?_of_verify h
  obtain ⟨content, field, tail, hparts, -⟩ := exists_parts hoffset
  cases hparts.verify_iff.1 h
  exact ⟨content, tail, hparts⟩

/-- **What writing the check field does** to any bytes, and how it agrees with verifying it. -/
structure Seals (frame : Bytes) : Prop where
  length : (update frame).length = frame.length
  /-- No byte changes but those of the field, if there is one. -/
  outside : ∀ i, (∀ offset, offset? frame = some offset → i < offset ∨ offset + 2 ≤ i) →
    (update frame)[i]? = frame[i]?
  /-- The field stays where it is. -/
  place : offset? (update frame) = offset? frame
  /-- Writing it again changes nothing. -/
  again : update (update frame) = update frame
  /-- Without a place for the field nothing changes. -/
  undelimited : offset? frame = none → update frame = frame
  /-- With one, what has been written passes. -/
  passes : (offset? frame).isSome = true → verify (update frame) = true
  /-- What passes is what writing leaves as it is. -/
  verify_iff : verify frame = true ↔ (offset? frame).isSome = true ∧ update frame = frame

/-- **Writing and verifying agree** about every frame. -/
theorem update_seals (frame : Bytes) : Seals frame := by
  cases hoffset : Checksum.offset? frame with
  | none =>
    have hsame := update_of_undelimited hoffset
    constructor
    case length => rw [hsame]
    case outside => exact fun i _ => by rw [hsame]
    case place => rw [hsame]
    case again => rw [hsame, hsame]
    case undelimited => exact fun _ => hsame
    case passes => exact fun h => by rw [hoffset] at h; cases h
    case verify_iff =>
      refine iff_of_false (fun h => ?_) fun h => by rw [hoffset] at h; cases h.1
      obtain ⟨offset, hsome⟩ := exists_offset?_of_verify h
      cases hoffset.symm.trans hsome
  | some offset =>
    obtain ⟨content, field, tail, hparts, rfl⟩ := exists_parts hoffset
    have hupdated := hparts.updated
    constructor
    case length =>
      rw [hparts.update_eq, hparts.frame_eq]
      simp only [List.length_append, length_chars, hparts.width]
    case outside =>
      intro i hi
      rw [hparts.update_eq, hparts.frame_eq, List.append_assoc, List.append_assoc]
      rcases hi _ hoffset with hlt | hge
      · rw [List.getElem?_append_left hlt, List.getElem?_append_left hlt]
      · have hbehind (bs : Bytes) (hbs : bs.length = 2) :
            (content ++ (bs ++ tail))[i]? = tail[i - content.length - 2]? := by
          rw [List.getElem?_append_right (by omega), List.getElem?_append_right (by omega), hbs]
        rw [hbehind _ (length_chars _), hbehind _ hparts.width]
    case place => rw [hupdated.offset?, hoffset]
    case again => rw [hupdated.update_eq, hparts.update_eq]
    case undelimited => exact fun h => by rw [hoffset] at h; cases h
    case passes => exact fun _ => hupdated.verify_iff.2 rfl
    case verify_iff =>
      have hsome : (Checksum.offset? frame).isSome = true := Option.isSome_of_eq_some hoffset
      rw [hparts.verify_iff, and_iff_right hsome, hparts.update_eq]
      conv => rhs; rw [hparts.frame_eq, List.append_cancel_right_eq, List.append_cancel_left_eq]
      exact eq_comm

/-! ## One wrong byte -/

variable {content' us vs : Bytes} {a b : UInt8}

/-- What stands before the end delimiter of a closed frame is a digit, and no delimiter. -/
theorem append_chars_ne_close (value : UInt8) :
    content ++ chars value ≠ close content' := by
  intro h
  have hsplit : content ++ chars value =
      content ++ [Digits.hexDigit (value >>> 4)] ++ [Digits.hexDigit (value &&& 0x0F)] :=
    List.append_cons _ _ _
  have hlast := getLast?_close content'
  rw [← h, hsplit, List.getLast?_concat] at hlast
  have hmem : stop ∈ chars value := by
    rw [← Option.some.inj hlast]
    exact List.mem_cons_of_mem _ List.mem_cons_self
  exact not_mem_of_isFieldDigit (all_isFieldDigit_chars value) (by decide) hmem

/-- A closed frame is more than one byte away from another with a carriage return: if all but their
last bytes agreed, the check field of the one would end with the end delimiter of the other. -/
theorem ne_close_of_eq_close (h : us ++ a :: vs = close content) :
    us ++ b :: vs ≠ close content' ++ [cr] := by
  intro h'
  rcases List.eq_nil_or_concat vs with rfl | ⟨ws, last, rfl⟩
  · have hus : us = content ++ chars (compute content) := (List.append_inj' h rfl).1
    have hus' : us = close content' := (List.append_inj' h' rfl).1
    exact append_chars_ne_close _ (hus.symm.trans hus')
  · rw [List.concat_eq_append, ← List.cons_append, ← List.append_assoc] at h h'
    have hstop : [last] = [stop] := (List.append_inj' h rfl).2
    have hcr : [last] = [cr] := (List.append_inj' h' rfl).2
    exact absurd (hstop.symm.trans hcr) (by decide)

/-- **No two frames that pass differ in exactly one byte.** -/
theorem byte_eq_of_verify (h : verify (us ++ a :: vs) = true)
    (h' : verify (us ++ b :: vs) = true) : a = b := by
  obtain ⟨content, tail, hparts⟩ := exists_parts_of_verify h
  obtain ⟨content', tail', hparts'⟩ := exists_parts_of_verify h'
  have hcr (c : Bytes) : c ++ chars (compute c) ++ [stop, cr] = close c ++ [cr] :=
    List.append_cons _ _ _
  have heq := hparts.frame_eq
  have heq' := hparts'.frame_eq
  rcases hparts.ended with rfl | rfl <;> rcases hparts'.ended with rfl | rfl
  · exact byte_eq_of_close heq.symm heq'.symm
  · exact absurd (heq'.trans (hcr _)) (ne_close_of_eq_close heq)
  · exact absurd (heq.trans (hcr _)) (ne_close_of_eq_close heq')
  · rw [hcr] at heq heq'
    rcases List.eq_nil_or_concat vs with rfl | ⟨ws, last, rfl⟩
    · exact (List.singleton_inj.1 (List.append_inj' heq rfl).2).trans
        (List.singleton_inj.1 (List.append_inj' heq' rfl).2).symm
    · rw [List.concat_eq_append, ← List.cons_append, ← List.append_assoc] at heq heq'
      exact byte_eq_of_close (List.append_inj' heq rfl).1.symm (List.append_inj' heq' rfl).1.symm

/-- **A single wrong byte is found**, wherever it is and whatever it has become. -/
theorem verify_eq_false_of_changed {sent received : Bytes} (hsent : verify sent = true)
    (hlen : sent.length = received.length) (hone : ∃! i : Nat, sent[i]? ≠ received[i]?) :
    verify received = false := by
  obtain ⟨us, a, b, vs, hne, rfl, rfl⟩ := Bytes.damaged_iff.2 ⟨hlen, hone⟩
  rw [← Bool.not_eq_true]
  exact fun hreceived => hne (byte_eq_of_verify hsent hreceived)

/-- The carriage return has become one more end delimiter. -/
theorem verify_eq_false_of_second_stop :
    ∃ sent received : Bytes, sent = .ascii ['@', 'Z', '1', 'A', '*', '\r'] ∧
      received = .ascii ['@', 'Z', '1', 'A', '*', '*'] ∧ verify sent = true ∧
      sent.length = received.length ∧ (∃! i : Nat, sent[i]? ≠ received[i]?) ∧
      verify received = false := by
  have hverify : verify (.ascii ['@', 'Z', '1', 'A', '*', '\r']) = true := by decide
  obtain ⟨hlen, hone⟩ := Bytes.damaged_iff.1
    ⟨Bytes.ascii ['@', 'Z', '1', 'A', '*'], cr, stop, [], by decide, rfl, rfl⟩
  exact ⟨_, _, rfl, rfl, hverify, hlen, hone, verify_eq_false_of_changed hverify hlen hone⟩

end Checksum

end DomeLink
