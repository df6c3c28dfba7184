import DomeLink.Proofs.Wire.Spelling

/-!
# Frames that are made of pieces

A frame is written as pieces of fixed widths, a padding of zeros and the check field. Such a frame
is known by its fields: `Bytes.PiecesAt` says that the pieces stand at their places, and
`Checksum.terminate_pieces_eq_iff` that a closed frame is the one that is written exactly if they
do, the padding is zeros, and the length is right. The check field is then right by itself.
-/

namespace DomeLink

namespace Bytes

/-- The pieces stand in the frame one behind the other, from `offset` on. -/
def PiecesAt (frame : Bytes) : Nat → List Nat → List Bytes → Prop
  | offset, width :: widths, piece :: pieces =>
    frame.field offset width = .ok piece ∧ PiecesAt frame (offset + width) widths pieces
  | _, [], [] => True
  | _, _, _ => False

variable {frame front piece : Bytes} {pieces : List Bytes} {widths : List Nat} {offset count : Nat}
  {z : UInt8}

theorem append_prefix_drop_iff (ho : offset ≤ frame.length) {rest : Bytes} :
    piece ++ rest <+: frame.drop offset ↔
      frame.field offset piece.length = .ok piece ∧
        rest <+: frame.drop (offset + piece.length) := by
  rw [field_eq_ok_iff]
  constructor
  · intro h
    have hle := h.length_le
    have htake := List.prefix_iff_eq_take.1 ((List.prefix_append piece rest).trans h)
    rw [List.length_append, List.length_drop] at hle
    refine ⟨⟨by omega, htake.symm⟩, ?_⟩
    rw [← List.take_append_drop piece.length (frame.drop offset), ← htake,
      List.prefix_append_right_inj, List.drop_drop] at h
    exact h
  · rintro ⟨⟨-, htake⟩, h⟩
    rw [← List.take_append_drop piece.length (frame.drop offset), htake,
      List.prefix_append_right_inj, List.drop_drop]
    exact h

/-- **Pieces at their places** are what the frame goes on with. -/
theorem flatten_prefix_drop_iff (hws : pieces.map List.length = widths)
    (ho : offset ≤ frame.length) :
    pieces.flatten <+: frame.drop offset ↔ frame.PiecesAt offset widths pieces := by
  subst hws
  induction pieces generalizing offset with
  | nil => exact iff_of_true List.nil_prefix trivial
  | cons piece pieces ih =>
    rw [List.flatten_cons, append_prefix_drop_iff ho, List.map_cons, PiecesAt]
    exact and_congr_right fun h => ih (field_eq_ok_iff.1 h).1

/-- What is behind the front is `count` times the same byte. -/
theorem eq_append_replicate_iff :
    frame = front ++ List.replicate count z ↔
      frame.length = front.length + count ∧ front <+: frame ∧
        frame.Spells front.length (front.length + count) (· == z) := by
  constructor
  · rintro rfl
    refine ⟨by rw [List.length_append, List.length_replicate], List.prefix_append _ _, ?_⟩
    intro i hi hi'
    rw [List.getElem?_append_right hi, List.getElem?_replicate_of_lt (by omega)]
    exact beq_self_eq_true z
  · rintro ⟨hlen, ⟨rest, rfl⟩, hspells⟩
    rw [List.length_append, Nat.add_left_cancel_iff] at hlen
    rw [List.append_cancel_left_eq, List.eq_replicate_iff]
    refine ⟨hlen, fun b hb => ?_⟩
    obtain ⟨i, hi⟩ := List.mem_iff_getElem?.1 hb
    have hlt := (List.getElem?_eq_some_iff.1 hi).1
    have hplace := hspells (front.length + i) (Nat.le_add_right _ _) (by omega)
    rw [List.getElem?_append_right (Nat.le_add_right _ _), Nat.add_sub_cancel_left, hi] at hplace
    exact eq_of_beq hplace

end Bytes

namespace Checksum

variable {content content' : Bytes} {pieces : List Bytes} {widths : List Nat} {count : Nat}

theorem close_inj : close content = close content' ↔ content = content' := by
  constructor
  · intro h
    have hlen := congrArg List.length h
    rw [length_close, length_close, Nat.add_right_cancel_iff] at hlen
    rw [close, close, List.append_assoc, List.append_assoc] at h
    exact (List.append_inj h hlen).1
  · exact congrArg close

/-- **A closed frame is the one that is written** exactly if its length is right, the pieces are
its fields, and the padding is zeros. -/
theorem terminate_pieces_eq_iff (hws : pieces.map List.length = widths) (z : UInt8) :
    terminate (pieces.flatten ++ List.replicate count z) = close content ++ [Bytes.cr] ↔
      (close content).length = widths.sum + count + 3 ∧
        (close content).PiecesAt 0 widths pieces ∧
          (close content).Spells widths.sum (widths.sum + count) (· == z) := by
  have hsum : pieces.flatten.length = widths.sum := by rw [List.length_flatten, hws]
  have hclose : close content = content ++ (chars (compute content) ++ [Bytes.stop]) :=
    List.append_assoc _ _ _
  rw [terminate_eq_close, List.append_cancel_right_eq, close_inj, eq_comm,
    Bytes.eq_append_replicate_iff, hsum, length_close, Nat.add_right_cancel_iff,
    ← Bytes.flatten_prefix_drop_iff hws (Nat.zero_le _), List.drop_zero]
  refine and_congr_right fun hlen => and_congr ?_ ?_
  · have hprefix : content <+: close content := hclose ▸ List.prefix_append _ _
    exact ⟨fun h => h.trans hprefix,
      fun h => List.prefix_of_prefix_length_le h hprefix (by omega)⟩
  · rw [hclose, Bytes.spells_append (by omega)]

end Checksum

end DomeLink
