import DomeLink.Flags.Field
import DomeLink.Proofs.Flags
import DomeLink.Proofs.Wire.Digits

/-!
# Fields of a frame

What follows a field is not seen by its readers: the `_append` laws.

A frame that is written as a list of pieces one after the other, with anything behind them, is read
back field by field: the piece of index `i` is the field that starts where the first `i` pieces end.
`Bytes.field_flatten` says so for the bytes of a field; the laws after it read a number, a flag word
and a single byte out of such a piece.
-/

namespace DomeLink.Bytes

/-! ## Fields and what follows them -/

section

variable {frame body bs : Bytes} {offset width : Nat}

theorem field_eq_ok_iff :
    frame.field offset width = .ok bs ↔
      offset + width ≤ frame.length ∧ (frame.drop offset).take width = bs := by
  rw [← slice?_eq_some_iff, field]
  cases frame.slice? offset width with
  | none => exact iff_of_false nofun nofun
  | some bs' => rw [Except.ok.injEq, Option.some.injEq]

theorem field_of_front {front : Bytes} (h : front <+: frame) :
    frame.field 0 front.length = .ok front := by
  rw [field_eq_ok_iff, List.drop_zero, Nat.zero_add]
  exact ⟨h.length_le, (List.prefix_iff_eq_take.1 h).symm⟩

theorem length_of_field (h : frame.field offset width = .ok bs) : bs.length = width :=
  length_of_slice? (slice?_eq_some_iff.2 (field_eq_ok_iff.1 h))

theorem field_append (h : offset + width ≤ body.length) (tail : Bytes) :
    Bytes.field (body ++ tail) offset width = body.field offset width := by
  have hfield : body.field offset width = .ok ((body.drop offset).take width) :=
    field_eq_ok_iff.2 ⟨h, rfl⟩
  rw [hfield, field_eq_ok_iff]
  constructor
  · rw [List.length_append]
    omega
  · rw [List.drop_append_of_le_length (by omega), List.take_append_of_le_length]
    rw [List.length_drop]
    omega

theorem decimalField_append (h : offset + width ≤ body.length) (tail : Bytes) :
    Bytes.decimalField (body ++ tail) offset width = body.decimalField offset width := by
  rw [decimalField, decimalField, field_append h]

theorem hexField_append (h : offset + width ≤ body.length) (tail : Bytes) :
    Bytes.hexField (body ++ tail) offset width = body.hexField offset width := by
  rw [hexField, hexField, field_append h]

theorem byteAt_append (h : offset + 1 ≤ body.length) (tail : Bytes) :
    Bytes.byteAt (body ++ tail) offset = body.byteAt offset := by
  rw [byteAt, byteAt, List.getElem?_append_left h, List.getElem?_eq_getElem h]

/-- What is taken off a frame stands behind all of it. -/
theorem exists_eq_withoutCr_append (frame : Bytes) : ∃ tail, frame = frame.withoutCr ++ tail := by
  rw [withoutCr]
  split
  case isTrue h =>
    obtain ⟨body, rfl⟩ := List.getLast?_eq_some_iff.1 h
    exact ⟨[cr], by rw [List.dropLast_concat]⟩
  case isFalse => exact ⟨[], (List.append_nil frame).symm⟩

theorem withoutCr_prefix (frame : Bytes) : frame.withoutCr <+: frame := by
  obtain ⟨tail, htail⟩ := exists_eq_withoutCr_append frame
  exact ⟨tail, htail.symm⟩

/-- At most one character is taken off. -/
theorem length_le_withoutCr (frame : Bytes) : frame.length ≤ frame.withoutCr.length + 1 := by
  rw [withoutCr]
  split
  · rw [List.length_dropLast]
    omega
  · exact Nat.le_succ _

end

/-! ## Frames that start with pieces -/

variable {pieces : List Bytes} {widths : List Nat} {width : Nat}

/-- **A piece is the field at its place.** -/
theorem field_flatten (hws : pieces.map List.length = widths) (rest : Bytes) (i offset : Nat)
    {piece : Bytes} (hp : pieces[i]? = some piece) (ho : (widths.take i).sum = offset)
    (hw : piece.length = width) :
    Bytes.field (pieces.flatten ++ rest) offset width = .ok piece := by
  obtain ⟨hi, rfl⟩ := List.getElem?_eq_some_iff.1 hp
  have hsplit : pieces.flatten ++ rest =
      (pieces.take i).flatten ++ (pieces[i] ++ ((pieces.drop (i + 1)).flatten ++ rest)) := by
    rw [← List.append_assoc, ← List.append_assoc, List.append_assoc _ pieces[i],
      ← List.flatten_cons, ← List.drop_eq_getElem_cons hi, ← List.flatten_append,
      List.take_append_drop]
  have hlen : (pieces.take i).flatten.length = offset := by
    rw [List.length_flatten, List.map_take, hws, ho]
  rw [field_eq_ok_iff, hsplit]
  constructor
  · simp only [List.length_append]
    omega
  · rw [List.drop_left' hlen, List.take_left' hw]

/-- **Pieces that begin alike and end alike** are the same characters outside of what differs. -/
theorem getElem?_flatten {pieces' : List Bytes} (hws : pieces.map List.length = widths)
    (hws' : pieces'.map List.length = widths) {a b i : Nat} (htake : pieces.take a = pieces'.take a)
    (hdrop : pieces.drop b = pieces'.drop b) (hi : i < (widths.take a).sum ∨ (widths.take b).sum ≤ i)
    (rest : Bytes) : (pieces.flatten ++ rest)[i]? = (pieces'.flatten ++ rest)[i]? := by
  have hsplit (ps : List Bytes) (j : Nat) :
      ps.flatten ++ rest = (ps.take j).flatten ++ ((ps.drop j).flatten ++ rest) := by
    rw [← List.append_assoc, ← List.flatten_append, List.take_append_drop]
  have hlen (j : Nat) {ps : List Bytes} (hps : ps.map List.length = widths) :
      (ps.take j).flatten.length = (widths.take j).sum := by
    rw [List.length_flatten, List.map_take, hps]
  rcases hi with hi | hi
  · have hleft {ps : List Bytes} (hps : ps.map List.length = widths) :
        (ps.flatten ++ rest)[i]? = (ps.take a).flatten[i]? := by
      rw [hsplit ps a, List.getElem?_append_left (by rw [hlen a hps]; exact hi)]
    rw [hleft hws, hleft hws', htake]
  · have hright {ps : List Bytes} (hps : ps.map List.length = widths) :
        (ps.flatten ++ rest)[i]? =
          ((ps.drop b).flatten ++ rest)[i - (widths.take b).sum]? := by
      rw [hsplit ps b, List.getElem?_append_right (by rw [hlen b hps]; exact hi), hlen b hps]
    rw [hright hws, hright hws', hdrop]

/-- A decimal piece holds its value modulo the power of ten that its width allows. -/
theorem decimalField_flatten (hws : pieces.map List.length = widths) (rest : Bytes)
    (i offset : Nat) {v : UInt32} (hp : pieces[i]? = some (Digits.writeDecimal width v))
    (ho : (widths.take i).sum = offset) :
    Bytes.decimalField (pieces.flatten ++ rest) offset width =
      .ok (UInt32.ofNat (v.toNat % 10 ^ width)) := by
  unfold Bytes.decimalField
  rw [field_flatten hws rest i offset hp ho (Digits.length_writeDecimal width v), ok_bind,
    Digits.readDecimal_writeDecimal]
  rfl

/-- A hexadecimal piece holds its value modulo the power of sixteen that its width allows. -/
theorem hexField_flatten (hws : pieces.map List.length = widths) (rest : Bytes)
    (i offset : Nat) {v : UInt32} (hp : pieces[i]? = some (Digits.writeHex width v))
    (ho : (widths.take i).sum = offset) :
    Bytes.hexField (pieces.flatten ++ rest) offset width =
      .ok (UInt32.ofNat (v.toNat % 16 ^ width)) := by
  unfold Bytes.hexField
  rw [field_flatten hws rest i offset hp ho (Digits.length_writeHex width v), ok_bind,
    Digits.readHex_writeHex]
  rfl

theorem byteAt_of_field {frame : Bytes} {offset : Nat} {b : UInt8}
    (h : Bytes.field frame offset 1 = .ok [b]) : Bytes.byteAt frame offset = .ok b := by
  obtain ⟨hlt, htake⟩ := field_eq_ok_iff.1 h
  rw [List.drop_eq_getElem_cons hlt, List.take_succ_cons] at htake
  unfold Bytes.byteAt
  rw [List.getElem?_eq_getElem hlt, List.head_eq_of_cons_eq htake]

/-- A piece of one byte is the byte at its place. -/
theorem byteAt_flatten (hws : pieces.map List.length = widths) (rest : Bytes) (i offset : Nat)
    {b : UInt8} (hp : pieces[i]? = some [b]) (ho : (widths.take i).sum = offset) :
    Bytes.byteAt (pieces.flatten ++ rest) offset = .ok b :=
  byteAt_of_field (field_flatten hws rest i offset hp ho rfl)

end DomeLink.Bytes

namespace DomeLink.Flags

variable {t : FlagTable}

theorem ofField_append {body : Bytes} {offset width : Nat} (h : offset + width ≤ body.length)
    (tail : Bytes) :
    (ofField (body ++ tail) offset width : Outcome (Flags t)) = ofField body offset width := by
  rw [ofField, ofField, Bytes.hexField_append h]

theorem ofNat_toNat_mod (x : Flags t) : (ofNat (x.toNat % 16) : Flags t) = x.nibble := by
  refine ext_bits (BitVec.eq_of_getLsbD_eq fun j hj => ?_)
  show (BitVec.ofNat t.width (x.bits.toNat % 2 ^ 4)).getLsbD j =
    (x.bits &&& BitVec.ofNat t.width (2 ^ 4 - 1)).getLsbD j
  rw [BitVec.getLsbD_and, BitVec.getLsbD_ofNat, BitVec.getLsbD_ofNat, Nat.testBit_mod_two_pow,
    Nat.testBit_two_pow_sub_one, decide_eq_true hj, Bool.true_and, Bool.true_and, Bool.and_comm]
  rfl

/-- A flag piece of one digit holds the low four bits of its word. -/
theorem ofField_flatten {pieces : List Bytes} {widths : List Nat}
    (hws : pieces.map List.length = widths) (rest : Bytes) (i offset : Nat) {x : Flags t}
    (hp : pieces[i]? = some (x.toDigits 1)) (ho : (widths.take i).sum = offset) :
    Flags.ofField (pieces.flatten ++ rest) offset 1 = .ok x.nibble := by
  have hv : (UInt32.ofNat ((UInt32.ofNat x.toNat).toNat % 16 ^ 1)).toUInt8.toNat =
      x.toNat % 16 := by
    rw [UInt32.toNat_toUInt8, UInt32.toNat_ofNat', UInt32.toNat_ofNat']
    show x.toNat % 2 ^ 32 % 16 % 2 ^ 32 % 2 ^ 8 = _
    omega
  unfold Flags.ofField
  rw [Bytes.hexField_flatten hws rest i offset hp ho, map_ok, hv, ofNat_toNat_mod]

/-- A flag piece of two digits holds a word of eight bits. -/
theorem ofField_flatten_two {pieces : List Bytes} {widths : List Nat}
    (hws : pieces.map List.length = widths) (rest : Bytes) (i offset : Nat) {x : Flags t}
    (hp : pieces[i]? = some (x.toDigits 2)) (ho : (widths.take i).sum = offset)
    (ht : t.width = 8) : Flags.ofField (pieces.flatten ++ rest) offset 2 = .ok x := by
  have hlt : x.toNat < 2 ^ 8 := ht ▸ x.bits.isLt
  have hv : (UInt32.ofNat ((UInt32.ofNat x.toNat).toNat % 16 ^ 2)).toUInt8.toNat = x.toNat := by
    rw [UInt32.toNat_toUInt8, UInt32.toNat_ofNat', UInt32.toNat_ofNat']
    omega
  have hx : (ofNat x.toNat : Flags t) = x :=
    ext_bits ((BitVec.ofNat_toNat t.width x.bits).trans (BitVec.setWidth_eq x.bits))
  unfold Flags.ofField
  rw [Bytes.hexField_flatten hws rest i offset hp ho, map_ok, hv, hx]

end DomeLink.Flags
