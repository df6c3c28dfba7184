import DomeLink.Proofs.Wire.Field
import DomeLink.Proofs.Wire.Verify
import Mathlib.Data.List.Induction

/-!
# What the digits of a field spell

A field is read exactly if its bytes are digits of its radix, and then what is read is the number
that they spell. Written again it is the field itself, but for the case of hexadecimal letters:
these are written in uppercase.

* `Digits.readDecimal_eq_ok_iff`, `Digits.exists_readHex_iff`: which bytes are read.
* `Digits.writeDecimal_of_readDecimal`, `Digits.writeHex_of_readHex`: what was read, written again.
* `Bytes.Spells`: the places of a frame from one to another hold bytes of a class. The fields of a
  frame are read and written as the class of their bytes says (`Bytes.exists_decimalField_iff`,
  `Bytes.field_eq_writeHex_iff` and their like).
-/

namespace DomeLink.Digits

/-- A decimal digit. -/
def isDecimal (b : UInt8) : Bool := 0x30 ≤ b && b ≤ 0x39

/-- A hexadecimal digit of either case. -/
def isHex (b : UInt8) : Bool := Checksum.isFieldDigit b || (0x61 ≤ b && b ≤ 0x66)

/-- A hexadecimal digit, a letter in uppercase. -/
def upper (b : UInt8) : UInt8 := if 0x61 ≤ b ∧ b ≤ 0x66 then b - 0x20 else b

/-- The number that decimal digits spell behind digits that spell `n`. -/
def decimalFrom (n : Nat) (bs : Bytes) : Nat := bs.foldl (fun n b => n * 10 + (b - 0x30).toNat) n

/-- The number that decimal digits spell. -/
def decimal (bs : Bytes) : Nat := decimalFrom 0 bs

variable {bs : Bytes} {b d : UInt8} {v : UInt32}

/-! ## Decimal fields -/

theorem decimalValue?_of_isDecimal (h : isDecimal b = true) :
    decimalValue? b = some (b - 0x30) := by
  rw [isDecimal, Bool.and_eq_true, decide_eq_true_eq, decide_eq_true_eq] at h
  rw [decimalValue?, if_pos h]

theorem decimalValue?_of_not_isDecimal (h : ¬ isDecimal b = true) : decimalValue? b = none := by
  rw [isDecimal, Bool.and_eq_true, decide_eq_true_eq, decide_eq_true_eq] at h
  rw [decimalValue?, if_neg h]

/-- A byte is a digit, whose value goes behind those before it, or is refused. -/
theorem readDecimalFrom_cons (acc : UInt32) (index : Nat) (b : UInt8) (bs : Bytes) :
    readDecimalFrom acc index (b :: bs) =
      if isDecimal b then
        appendDecimal acc (b - 0x30) >>= fun next => readDecimalFrom next (index + 1) bs
      else .error (.invalid index b) := by
  rw [readDecimalFrom]
  by_cases h : isDecimal b = true
  · rw [decimalValue?_of_isDecimal h, if_pos h]
    cases happend : appendDecimal acc (b - 0x30) with
    | error e => simp only [happend, error_bind]
    | ok next => simp only [happend, ok_bind]
  · rw [decimalValue?_of_not_isDecimal h, if_neg h]

theorem decimalFrom_cons (n : Nat) (b : UInt8) (bs : Bytes) :
    decimalFrom n (b :: bs) = decimalFrom (n * 10 + (b - 0x30).toNat) bs := rfl

/-- More digits spell no smaller number. -/
theorem le_decimalFrom (n : Nat) (bs : Bytes) : n ≤ decimalFrom n bs := by
  induction bs generalizing n with
  | nil => exact Nat.le_refl n
  | cons b bs ih =>
    rw [decimalFrom_cons]
    exact Nat.le_trans (by omega) (ih _)

theorem readDecimalFrom_eq_ok_iff {acc : UInt32} {index : Nat} :
    readDecimalFrom acc index bs = .ok v ↔
      bs.all isDecimal = true ∧ v.toNat = decimalFrom acc.toNat bs := by
  induction bs generalizing acc index with
  | nil =>
    rw [readDecimalFrom, Except.ok.injEq, ← UInt32.toNat_inj]
    exact eq_comm.trans (and_iff_right rfl).symm
  | cons b bs ih =>
    rw [readDecimalFrom_cons, List.all_cons, Bool.and_eq_true, decimalFrom_cons, and_assoc]
    split
    case isFalse hb => exact iff_of_false (by rintro ⟨⟩) fun h => hb h.1
    case isTrue hb =>
      rw [and_iff_right hb, bind_eq_ok]
      constructor
      · rintro ⟨next, hnext, h⟩
        rw [← (appendDecimal_eq_ok.1 hnext).2]
        exact ih.1 h
      · rintro ⟨hall, hv⟩
        have hroom : acc.toNat * 10 + (b - 0x30).toNat < UInt32.size :=
          Nat.lt_of_le_of_lt (hv ▸ le_decimalFrom _ bs) v.toNat_lt
        have hnext := UInt32.toNat_ofNat_of_lt' hroom
        refine ⟨UInt32.ofNat _, appendDecimal_eq_ok.2 ⟨hroom, hnext⟩, ih.2 ⟨hall, ?_⟩⟩
        rw [hv, hnext]

/-- **Decimal digits are read as the number that they spell**, and nothing else is read. -/
theorem readDecimal_eq_ok_iff :
    readDecimal bs = .ok v ↔ bs.all isDecimal = true ∧ v.toNat = decimal bs :=
  readDecimalFrom_eq_ok_iff

theorem decimalFrom_lt (n : Nat) (h : bs.all isDecimal = true) :
    decimalFrom n bs < (n + 1) * 10 ^ bs.length := by
  induction bs generalizing n with
  | nil =>
    show n < (n + 1) * 10 ^ 0
    omega
  | cons b bs ih =>
    rw [List.all_cons, Bool.and_eq_true] at h
    have hb := decimalValue?_lt (decimalValue?_of_isDecimal h.1)
    calc decimalFrom n (b :: bs)
      _ < (n * 10 + (b - 0x30).toNat + 1) * 10 ^ bs.length := ih _ h.2
      _ ≤ ((n + 1) * 10) * 10 ^ bs.length := Nat.mul_le_mul_right _ (by omega)
      _ = (n + 1) * 10 ^ (b :: bs).length := by
        rw [List.length_cons, Nat.pow_succ', Nat.mul_assoc]

/-- Nine digits always fit into 32 bits. -/
theorem decimal_lt_of_length_le (hall : bs.all isDecimal = true) (hlen : bs.length ≤ 9) :
    decimal bs < 2 ^ 32 := by
  have hlt : decimal bs < (0 + 1) * 10 ^ bs.length := decimalFrom_lt 0 hall
  have hroom := Nat.pow_le_pow_right (n := 10) (by decide) hlen
  omega

theorem exists_readDecimal_of_lt (hall : bs.all isDecimal = true) (hlt : decimal bs < 2 ^ 32) :
    ∃ v, readDecimal bs = .ok v :=
  ⟨UInt32.ofNat (decimal bs), readDecimal_eq_ok_iff.2 ⟨hall, UInt32.toNat_ofNat_of_lt' hlt⟩⟩

theorem exists_readDecimal_iff (hlen : bs.length ≤ 9) :
    (∃ v, readDecimal bs = .ok v) ↔ bs.all isDecimal = true := by
  constructor
  · rintro ⟨v, hv⟩
    exact (readDecimal_eq_ok_iff.1 hv).1
  · intro h
    exact exists_readDecimal_of_lt h (decimal_lt_of_length_le h hlen)

/-- **A decimal field that was read is written again** as it was. -/
theorem writeDecimal_of_readDecimal (h : readDecimal bs = .ok v) :
    writeDecimal bs.length v = bs := by
  rw [readDecimal_eq_ok_iff] at h
  induction bs using List.reverseRecOn generalizing v with
  | nil => rfl
  | append_singleton bs b ih =>
    obtain ⟨hall, hv⟩ := h
    rw [List.all_append, Bool.and_eq_true, List.all_cons, List.all_nil, Bool.and_true] at hall
    have hb := decimalValue?_lt (decimalValue?_of_isDecimal hall.2)
    have hlast : v.toNat = decimal bs * 10 + (b - 0x30).toNat := hv.trans List.foldl_append
    have hfront : (v / 10).toNat = decimal bs := by
      rw [UInt32.toNat_div]
      show v.toNat / 10 = _
      omega
    have hdigit : (v % 10).toUInt8 = b - 0x30 := by
      rw [← UInt8.toNat_inj, UInt32.toNat_toUInt8, UInt32.toNat_mod]
      show v.toNat % 10 % 2 ^ 8 = _
      omega
    rw [List.length_append, List.length_singleton, writeDecimal, ih ⟨hall.1, hfront⟩, hdigit,
      UInt8.add_comm, UInt8.sub_add_cancel]

/-! ## Hexadecimal fields -/

theorem hexValue?_ofNat : ∀ n : Fin 256, isHex (UInt8.ofNat n) = true →
    ∃ d : Fin 16, hexValue? (UInt8.ofNat n) = some (UInt8.ofNat d) ∧
      hexDigit (UInt8.ofNat d) = upper (UInt8.ofNat n) := by
  decide +kernel

/-- A hexadecimal digit has a value, which is written as the digit in uppercase. -/
theorem exists_hexValue? (h : isHex b = true) :
    ∃ d, d.toNat < 16 ∧ hexValue? b = some d ∧ hexDigit d = upper b := by
  have hn := hexValue?_ofNat ⟨b.toNat, b.toNat_lt⟩
  rw [UInt8.ofNat_toNat] at hn
  obtain ⟨d, hd⟩ := hn h
  exact ⟨UInt8.ofNat d, by rw [UInt8.toNat_ofNat']; omega, hd⟩

theorem hexValue?_of_not_isHex (h : ¬ isHex b = true) : hexValue? b = none := by
  simp only [isHex, Checksum.isFieldDigit, Bool.or_eq_true, Bool.and_eq_true, decide_eq_true_eq,
    not_or] at h
  rw [hexValue?, if_neg h.1.1, if_neg h.1.2, if_neg h.2]

theorem upper_eq_self_ofNat : ∀ n : Fin 256, isHex (UInt8.ofNat n) = true →
    (upper (UInt8.ofNat n) = UInt8.ofNat n ↔ Checksum.isFieldDigit (UInt8.ofNat n) = true) := by
  decide +kernel

/-- The digits in uppercase are those of a check field. -/
theorem upper_eq_self_iff (h : isHex b = true) :
    upper b = b ↔ Checksum.isFieldDigit b = true := by
  have hn := upper_eq_self_ofNat ⟨b.toNat, b.toNat_lt⟩
  rw [UInt8.ofNat_toNat] at hn
  exact hn h

theorem map_upper_eq_self_iff (h : bs.all isHex = true) :
    bs.map upper = bs ↔ bs.all Checksum.isFieldDigit = true := by
  induction bs with
  | nil => exact iff_of_true rfl rfl
  | cons b bs ih =>
    rw [List.all_cons, Bool.and_eq_true] at h ⊢
    rw [List.map_cons, List.cons.injEq, upper_eq_self_iff h.1, ih h.2]

/-- A byte is a digit, whose value goes behind those before it, or is refused. -/
theorem readHexFrom_cons (acc : UInt32) (index : Nat) (b : UInt8) (bs : Bytes) :
    (∃ d, d.toNat < 16 ∧ hexDigit d = upper b ∧ isHex b = true ∧
      readHexFrom acc index (b :: bs) = readHexFrom (acc <<< 4 ||| d.toUInt32) (index + 1) bs) ∨
    isHex b = false ∧ readHexFrom acc index (b :: bs) = .error (.invalid index b) := by
  rw [readHexFrom]
  by_cases h : isHex b = true
  · obtain ⟨d, hlt, hd, hupper⟩ := exists_hexValue? h
    exact .inl ⟨d, hlt, hupper, h, by rw [hd]⟩
  · exact .inr ⟨Bool.eq_false_iff.2 h, by rw [hexValue?_of_not_isHex h]⟩

theorem exists_readHexFrom_iff {acc : UInt32} {index : Nat} :
    (∃ v, readHexFrom acc index bs = .ok v) ↔ bs.all isHex = true := by
  induction bs generalizing acc index with
  | nil => exact iff_of_true ⟨acc, rfl⟩ rfl
  | cons b bs ih =>
    rw [List.all_cons, Bool.and_eq_true]
    rcases readHexFrom_cons acc index b bs with ⟨d, -, -, hb, hread⟩ | ⟨hb, hread⟩
    · rw [hread, ih, and_iff_right hb]
    · rw [hread, hb]
      exact iff_of_false nofun nofun

/-- **Hexadecimal digits of either case are read**, and nothing else. -/
theorem exists_readHex_iff : (∃ v, readHex bs = .ok v) ↔ bs.all isHex = true :=
  exists_readHexFrom_iff

/-- **A hexadecimal field that was read is written again** in uppercase. -/
theorem writeHex_of_readHex (h : readHex bs = .ok v) (hlen : bs.length ≤ 8) :
    writeHex bs.length v = bs.map upper := by
  induction bs using List.reverseRecOn generalizing v with
  | nil => rfl
  | append_singleton bs b ih =>
    rw [List.length_append, List.length_singleton] at hlen
    rw [readHex, readHexFrom_append, bind_eq_ok] at h
    obtain ⟨front, hfront, hlast⟩ := h
    rcases readHexFrom_cons front (0 + bs.length) b [] with ⟨d, hd, hdigit, -, hread⟩ | ⟨-, hread⟩
    · rw [hread] at hlast
      cases hlast
      have hlt : front.toNat < 2 ^ 28 := by
        have := readHex_lt hfront
        have := Nat.pow_le_pow_right (n := 16) (by decide) (Nat.le_of_lt_succ hlen)
        omega
      have hv := toNat_appendHex front hd
      have hshift : (front <<< 4 ||| d.toUInt32) >>> 4 = front := by
        rw [← UInt32.toNat_inj, UInt32.toNat_shiftRight, hv]
        show (front.toNat % 2 ^ 28 * 16 + d.toNat) >>> 4 = _
        omega
      have hmask : ((front <<< 4 ||| d.toUInt32) &&& 0x0F).toUInt8 = d := by
        rw [← UInt8.toNat_inj, UInt32.toNat_toUInt8, UInt32.toNat_and, hv]
        show (front.toNat % 2 ^ 28 * 16 + d.toNat &&& 2 ^ 4 - 1) % 2 ^ 8 = _
        rw [Nat.and_two_pow_sub_one_eq_mod]
        omega
      rw [List.length_append, List.length_singleton, writeHex, hshift, hmask,
        ih hfront (Nat.le_of_succ_le hlen), hdigit, List.map_append]
      rfl
    · rw [hread] at hlast
      cases hlast

end DomeLink.Digits

namespace DomeLink.Bytes

open Digits

/-- The places from `first` up to `last` are there and hold bytes of the class. -/
def Spells (frame : Bytes) (first last : Nat) (p : UInt8 → Bool) : Prop :=
  ∀ i, first ≤ i → i < last → (frame[i]?).any p = true

variable {frame bs : Bytes} {p : UInt8 → Bool} {first mid last offset width : Nat} {b : UInt8}
  {v : UInt32}

/-! ## Places and fields -/

theorem Spells.mono {first' last' : Nat} (h : frame.Spells first last p) (hfirst : first ≤ first')
    (hlast : last' ≤ last) : frame.Spells first' last' p :=
  fun i hi hi' => h i (Nat.le_trans hfirst hi) (Nat.lt_of_lt_of_le hi' hlast)

theorem Spells.append (h : frame.Spells first mid p) (h' : frame.Spells mid last p) :
    frame.Spells first last p := by
  intro i hi hi'
  by_cases hm : i < mid
  · exact h i hi hm
  · exact h' i (Nat.le_of_not_lt hm) hi'

theorem spells_append {body : Bytes} (h : last ≤ body.length) (tail : Bytes) :
    Spells (body ++ tail) first last p ↔ body.Spells first last p := by
  refine forall_congr' fun i => forall_congr' fun _ => forall_congr' fun hi => ?_
  rw [List.getElem?_append_left (Nat.lt_of_lt_of_le hi h)]

theorem extract_of_field (h : frame.field offset width = .ok bs) :
    frame.extract offset (offset + width) = bs := by
  rw [List.extract_eq_take_drop, Nat.add_sub_cancel_left]
  exact (field_eq_ok_iff.1 h).2

theorem getElem?_of_field (h : frame.field offset width = .ok bs) {i : Nat} (hi : i < width) :
    bs[i]? = frame[offset + i]? := by
  rw [← (field_eq_ok_iff.1 h).2, List.getElem?_take_of_lt hi, List.getElem?_drop]

/-- What the places of a field hold is what the field consists of. -/
theorem spells_iff_of_field (h : frame.field offset width = .ok bs) :
    frame.Spells offset (offset + width) p ↔ bs.all p = true := by
  have hlen := length_of_field h
  rw [List.all_eq_true]
  constructor
  · intro hspells b hb
    obtain ⟨i, hi⟩ := List.mem_iff_getElem?.1 hb
    have hlt : i < width := hlen ▸ (List.getElem?_eq_some_iff.1 hi).1
    have hplace := hspells (offset + i) (Nat.le_add_right _ _) (Nat.add_lt_add_left hlt _)
    rw [← getElem?_of_field h hlt, hi] at hplace
    exact hplace
  · intro hall i hi hi'
    have hlt : i - offset < width := by omega
    have hplace := getElem?_of_field h hlt
    rw [Nat.add_sub_cancel' hi, List.getElem?_eq_getElem (hlen ▸ hlt)] at hplace
    rw [← hplace]
    exact hall _ (List.getElem_mem _)

/-- Places that are there are a field. -/
theorem exists_field_of_spells (h : frame.Spells offset (offset + width) p) (hw : 0 < width) :
    ∃ bs, frame.field offset width = .ok bs := by
  refine ⟨_, field_eq_ok_iff.2 ⟨?_, rfl⟩⟩
  have hlast := h (offset + (width - 1)) (Nat.le_add_right _ _) (by omega)
  by_contra hlen
  rw [List.getElem?_eq_none (by omega)] at hlast
  cases hlast

/-! ## Numbers -/

theorem decimalField_eq_ok_iff :
    frame.decimalField offset width = .ok v ↔
      ∃ bs, frame.field offset width = .ok bs ∧ readDecimal bs = .ok v := by
  rw [decimalField, bind_eq_ok]
  exact exists_congr fun bs => and_congr_right fun _ => mapError_eq_ok

theorem hexField_eq_ok_iff :
    frame.hexField offset width = .ok v ↔
      ∃ bs, frame.field offset width = .ok bs ∧ readHex bs = .ok v := by
  rw [hexField, bind_eq_ok]
  exact exists_congr fun bs => and_congr_right fun _ => mapError_eq_ok

theorem decimalField_lt (h : frame.decimalField offset width = .ok v) : v.toNat < 10 ^ width := by
  obtain ⟨bs, hfield, hread⟩ := decimalField_eq_ok_iff.1 h
  exact length_of_field hfield ▸ readDecimal_lt hread

theorem hexField_lt (h : frame.hexField offset width = .ok v) : v.toNat < 16 ^ width := by
  obtain ⟨bs, hfield, hread⟩ := hexField_eq_ok_iff.1 h
  exact length_of_field hfield ▸ readHex_lt hread

/-- A decimal field of up to nine digits is read exactly if it consists of decimal digits. -/
theorem exists_decimalField_iff (hw : 0 < width) (hw' : width ≤ 9) :
    (∃ v, frame.decimalField offset width = .ok v) ↔
      frame.Spells offset (offset + width) isDecimal := by
  constructor
  · rintro ⟨v, hv⟩
    obtain ⟨bs, hfield, hread⟩ := decimalField_eq_ok_iff.1 hv
    exact (spells_iff_of_field hfield).2 (readDecimal_eq_ok_iff.1 hread).1
  · intro h
    obtain ⟨bs, hfield⟩ := exists_field_of_spells h hw
    obtain ⟨v, hv⟩ := (exists_readDecimal_iff (length_of_field hfield ▸ hw')).2
      ((spells_iff_of_field hfield).1 h)
    exact ⟨v, decimalField_eq_ok_iff.2 ⟨bs, hfield, hv⟩⟩

/-- A hexadecimal field is read exactly if it consists of hexadecimal digits. -/
theorem exists_hexField_iff (hw : 0 < width) :
    (∃ v, frame.hexField offset width = .ok v) ↔ frame.Spells offset (offset + width) isHex := by
  constructor
  · rintro ⟨v, hv⟩
    obtain ⟨bs, hfield, hread⟩ := hexField_eq_ok_iff.1 hv
    exact (spells_iff_of_field hfield).2 (exists_readHex_iff.1 ⟨v, hread⟩)
  · intro h
    obtain ⟨bs, hfield⟩ := exists_field_of_spells h hw
    obtain ⟨v, hv⟩ := exists_readHex_iff.2 ((spells_iff_of_field hfield).1 h)
    exact ⟨v, hexField_eq_ok_iff.2 ⟨bs, hfield, hv⟩⟩

/-- What a decimal field says is the number that it spells. -/
theorem toNat_of_decimalField (h : frame.decimalField offset width = .ok v) :
    v.toNat = decimal (frame.extract offset (offset + width)) := by
  obtain ⟨bs, hfield, hread⟩ := decimalField_eq_ok_iff.1 h
  rw [extract_of_field hfield]
  exact (readDecimal_eq_ok_iff.1 hread).2

/-- A decimal field is what is written for it. -/
theorem field_of_decimalField (h : frame.decimalField offset width = .ok v) :
    frame.field offset width = .ok (writeDecimal width v) := by
  obtain ⟨bs, hfield, hread⟩ := decimalField_eq_ok_iff.1 h
  rw [hfield, ← writeDecimal_of_readDecimal hread, length_of_field hfield]

/-- A hexadecimal field is what is written for it exactly if its letters are in uppercase. -/
theorem field_eq_writeHex_iff (h : frame.hexField offset width = .ok v) (hw : width ≤ 8) :
    frame.field offset width = .ok (writeHex width v) ↔
      frame.Spells offset (offset + width) Checksum.isFieldDigit := by
  obtain ⟨bs, hfield, hread⟩ := hexField_eq_ok_iff.1 h
  have hlen := length_of_field hfield
  have hwrite := writeHex_of_readHex hread (hlen ▸ hw)
  rw [hlen] at hwrite
  rw [hfield, spells_iff_of_field hfield, hwrite,
    ← map_upper_eq_self_iff (exists_readHex_iff.1 ⟨v, hread⟩), Except.ok.injEq]
  exact eq_comm

/-! ## Single bytes -/

theorem byteAt_eq_ok_iff : frame.byteAt offset = .ok b ↔ frame[offset]? = some b := by
  rw [byteAt]
  cases frame[offset]? with
  | none => exact iff_of_false (by rintro ⟨⟩) (by rintro ⟨⟩)
  | some b' => rw [Except.ok.injEq, Option.some.injEq]

theorem field_of_byteAt (h : frame.byteAt offset = .ok b) : frame.field offset 1 = .ok [b] := by
  obtain ⟨hlt, hb⟩ := List.getElem?_eq_some_iff.1 (byteAt_eq_ok_iff.1 h)
  refine field_eq_ok_iff.2 ⟨hlt, ?_⟩
  rw [List.drop_eq_getElem_cons hlt, hb]
  rfl

theorem exists_byteAt_iff :
    (∃ b, frame.byteAt offset = .ok b ∧ p b = true) ↔ frame.Spells offset (offset + 1) p := by
  constructor
  · rintro ⟨b, hb, hp⟩
    rw [spells_iff_of_field (field_of_byteAt hb), List.all_cons, hp]
    rfl
  · intro h
    have hplace := h offset (Nat.le_refl _) (Nat.lt_succ_self _)
    cases hb : frame[offset]? with
    | none =>
      rw [hb] at hplace
      cases hplace
    | some b =>
      rw [hb] at hplace
      exact ⟨b, byteAt_eq_ok_iff.2 hb, hplace⟩

end DomeLink.Bytes

namespace DomeLink.Flags

variable {t : FlagTable} {frame : Bytes} {offset width : Nat} {x : Flags t}

/-- A flag word is read exactly if its field consists of hexadecimal digits. -/
theorem exists_ofField_iff (hw : 0 < width) :
    (∃ x, (ofField frame offset width : Outcome (Flags t)) = .ok x) ↔
      frame.Spells offset (offset + width) Digits.isHex := by
  rw [← Bytes.exists_hexField_iff hw]
  constructor
  · rintro ⟨x, hx⟩
    obtain ⟨v, hv, -⟩ := map_eq_ok.1 hx
    exact ⟨v, hv⟩
  · rintro ⟨v, hv⟩
    exact ⟨_, map_eq_ok.2 ⟨v, hv, rfl⟩⟩

theorem spells_of_ofField (h : ofField frame offset width = .ok x) (hw : 0 < width) :
    frame.Spells offset (offset + width) Digits.isHex :=
  (exists_ofField_iff hw).1 ⟨x, h⟩

/-- The field of a flag word is what is written for it exactly if its letters are in uppercase. -/
theorem field_eq_toDigits_iff (h : ofField frame offset width = .ok x) (ht : t.width = 8)
    (hw : width ≤ 2) :
    frame.field offset width = .ok (x.toDigits width) ↔
      frame.Spells offset (offset + width) Checksum.isFieldDigit := by
  obtain ⟨v, hv, rfl⟩ := map_eq_ok.1 h
  have hlt : v.toNat < 2 ^ 8 :=
    Nat.lt_of_lt_of_le (Bytes.hexField_lt hv) (Nat.pow_le_pow_right (by decide : 0 < 16) hw)
  have hword : UInt32.ofNat (ofNat v.toUInt8.toNat : Flags t).toNat = v := by
    rw [← UInt32.toNat_inj, toNat_ofNat, FlagTable.size, ht, UInt32.toNat_toUInt8,
      UInt32.toNat_ofNat']
    show v.toNat % 2 ^ 8 % 2 ^ 8 % 2 ^ 32 = _
    omega
  rw [toDigits, hword]
  exact Bytes.field_eq_writeHex_iff hv (Nat.le_trans hw (by decide))

end DomeLink.Flags
