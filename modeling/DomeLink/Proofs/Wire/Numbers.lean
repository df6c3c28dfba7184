import DomeLink.Proofs.Wire.Spelling

/-!
# Numbers read from any bytes

What the readers of digits make of bytes of any length, be they digits or not. Decimal digits are
read from left to right, and there a number that has outgrown 32 bits and a byte that is no digit
race: reading overflows where digits in front spell such a number (`Overlong`), and else is refused
for the first byte that is no digit (`FirstOutside`). Hexadecimal digits do not overflow: their
number is read modulo 2 ^ 32.

* `readDecimal_cases`, `readHex_cases`: the ways in which reading can end, each with the bytes on
  which it ends so.
* `exists_overflow_iff`, `readDecimal_eq_invalid_iff`, `readHex_eq_invalid_iff`: the same, one
  fault at a time.
* `read_back_or_refused`: digits that were written are read back at every width, and bytes that
  were read are written back.
-/

namespace DomeLink.Digits

/-- The byte at the index is the first one that is not of the class. -/
structure FirstOutside (p : UInt8 → Bool) (bs : Bytes) (index : Nat) (byte : UInt8) : Prop where
  place : bs[index]? = some byte
  outside : p byte = false
  before : (bs.take index).all p = true

/-- Digits in front spell a number that does not fit into 32 bits. -/
def Overlong (bs : Bytes) : Prop :=
  ∃ front, front <+: bs ∧ front.all isDecimal = true ∧ 2 ^ 32 ≤ decimal front

/-- The value of a hexadecimal digit of either case. -/
def hexToNat (b : UInt8) : Nat := if isDecimal b then (b - 0x30).toNat else (upper b - 0x37).toNat

/-- The number that hexadecimal digits spell. -/
def hexadecimal (bs : Bytes) : Nat := bs.foldl (fun n b => n * 16 + hexToNat b) 0

variable {p : UInt8 → Bool} {bs front : Bytes} {index i j : Nat} {b c : UInt8} {acc v : UInt32}

/-! ## The first byte outside a class -/

theorem all_or_firstOutside (p : UInt8 → Bool) (bs : Bytes) :
    bs.all p = true ∨ ∃ i b, FirstOutside p bs i b := by
  induction bs with
  | nil => exact .inl rfl
  | cons b bs ih =>
    by_cases hb : p b = true
    · rcases ih with hall | ⟨i, c, h⟩
      · exact .inl (by rw [List.all_cons, hb, hall]; rfl)
      · refine .inr ⟨i + 1, c, h.place, h.outside, ?_⟩
        rw [List.take_succ_cons, List.all_cons, hb, h.before]
        rfl
    · exact .inr ⟨0, b, rfl, Bool.eq_false_iff.2 hb, rfl⟩

theorem FirstOutside.not_all (h : FirstOutside p bs i b) : ¬ bs.all p = true := by
  intro hall
  have hb := List.all_eq_true.1 hall b (List.mem_of_getElem? h.place)
  rw [h.outside] at hb
  cases hb

theorem FirstOutside.not_lt (h : FirstOutside p bs i b) (h' : FirstOutside p bs j c) : ¬ i < j := by
  intro hij
  have hplace := h.place
  rw [← List.getElem?_take_of_lt hij] at hplace
  have hb := List.all_eq_true.1 h'.before b (List.mem_of_getElem? hplace)
  rw [h.outside] at hb
  cases hb

/-- There is one first byte. -/
theorem FirstOutside.unique (h : FirstOutside p bs i b) (h' : FirstOutside p bs j c) :
    i = j ∧ b = c := by
  obtain rfl : i = j :=
    Nat.le_antisymm (Nat.le_of_not_lt (h'.not_lt h)) (Nat.le_of_not_lt (h.not_lt h'))
  exact ⟨rfl, Option.some.inj (h.place.symm.trans h'.place)⟩

/-- The bytes in front of it, the byte, and the rest. -/
theorem FirstOutside.eq_append (h : FirstOutside p bs i b) :
    bs = bs.take i ++ b :: bs.drop (i + 1) := by
  obtain ⟨hlt, hb⟩ := List.getElem?_eq_some_iff.1 h.place
  rw [← hb, ← List.drop_eq_getElem_cons hlt, List.take_append_drop]

theorem FirstOutside.length_take (h : FirstOutside p bs i b) : (bs.take i).length = i := by
  have hlt := (List.getElem?_eq_some_iff.1 h.place).1
  rw [List.length_take, Nat.min_eq_left (Nat.le_of_lt hlt)]

/-! ## Decimal digits -/

/-- A digit is added, or leaves the 32 bits. -/
theorem appendDecimal_cases (acc : UInt32) (digit : UInt8) :
    (∃ next, appendDecimal acc digit = .ok next ∧ next.toNat = acc.toNat * 10 + digit.toNat) ∨
      ∃ op, appendDecimal acc digit = .error (.overflow op) := by
  cases h : appendDecimal acc digit with
  | ok next => exact .inl ⟨next, rfl, (appendDecimal_eq_ok.1 h).2⟩
  | error e =>
    unfold appendDecimal at h
    split at h
    · split at h <;> cases h
      exact .inr ⟨.add, rfl⟩
    · cases h
      exact .inr ⟨.multiply, rfl⟩

/-- Digits whose number does not fit end in an overflow: on the way there no other fault is met. -/
theorem exists_overflow_of_all (hall : bs.all isDecimal = true)
    (hlong : 2 ^ 32 ≤ decimalFrom acc.toNat bs) :
    ∃ op, readDecimalFrom acc index bs = .error (.overflow op) := by
  induction bs generalizing acc index with
  | nil => exact absurd acc.toNat_lt (Nat.not_lt.2 hlong)
  | cons b bs ih =>
    rw [List.all_cons, Bool.and_eq_true] at hall
    rw [readDecimalFrom_cons, if_pos hall.1]
    rcases appendDecimal_cases acc (b - 0x30) with ⟨next, hnext, hvalue⟩ | ⟨op, hop⟩
    · rw [hnext, ok_bind]
      rw [decimalFrom_cons, ← hvalue] at hlong
      exact ih hall.2 hlong
    · rw [hop]
      exact ⟨op, rfl⟩

/-- What overflows still does with more bytes behind. -/
theorem exists_overflow_of_overlong (h : Overlong bs) :
    ∃ op, readDecimal bs = .error (.overflow op) := by
  obtain ⟨front, ⟨rest, rfl⟩, hall, hlong⟩ := h
  have hfront : ∃ op, readDecimalFrom 0 0 front = .error (.overflow op) :=
    exists_overflow_of_all hall hlong
  obtain ⟨op, hop⟩ := hfront
  refine ⟨op, ?_⟩
  rw [readDecimal, readDecimalFrom_append, hop, error_bind]

/-- Digits that fit are read up to the first byte that is none. -/
theorem readDecimal_of_firstOutside (h : FirstOutside isDecimal bs i b)
    (hlt : decimal (bs.take i) < 2 ^ 32) : readDecimal bs = .error (.invalid i b) := by
  obtain ⟨v, hv⟩ := exists_readDecimal_of_lt h.before hlt
  rw [readDecimal] at hv
  rw [readDecimal, h.eq_append, readDecimalFrom_append, hv, ok_bind, readDecimalFrom_cons,
    if_neg (Bool.eq_false_iff.1 h.outside), h.length_take, Nat.zero_add]

theorem decimal_lt_of_not_overlong (h : ¬ Overlong bs) (hfront : front <+: bs)
    (hall : front.all isDecimal = true) : decimal front < 2 ^ 32 :=
  Nat.lt_of_not_le fun hlong => h ⟨front, hfront, hall, hlong⟩

/-- **The ways in which decimal reading can end.** -/
theorem readDecimal_cases (bs : Bytes) :
    (Overlong bs ∧ ∃ op, readDecimal bs = .error (.overflow op)) ∨
      ¬ Overlong bs ∧
        ((∃ i b, FirstOutside isDecimal bs i b ∧ readDecimal bs = .error (.invalid i b)) ∨
          bs.all isDecimal = true ∧ ∃ v, readDecimal bs = .ok v) := by
  by_cases hlong : Overlong bs
  · exact .inl ⟨hlong, exists_overflow_of_overlong hlong⟩
  · refine .inr ⟨hlong, ?_⟩
    rcases all_or_firstOutside isDecimal bs with hall | ⟨i, b, h⟩
    · have hlt := decimal_lt_of_not_overlong hlong (List.prefix_refl bs) hall
      exact .inr ⟨hall, exists_readDecimal_of_lt hall hlt⟩
    · have hlt := decimal_lt_of_not_overlong hlong (List.take_prefix i bs) h.before
      exact .inl ⟨i, b, h, readDecimal_of_firstOutside h hlt⟩

/-- **Reading overflows exactly on an overlong number**, whatever stands behind it. -/
theorem exists_overflow_iff :
    (∃ op, readDecimal bs = .error (.overflow op)) ↔ Overlong bs := by
  rcases readDecimal_cases bs with ⟨hlong, hread⟩ | ⟨hlong, ⟨i, b, -, hread⟩ | ⟨-, v, hread⟩⟩
  · exact iff_of_true hread hlong
  · refine iff_of_false ?_ hlong
    rw [hread]
    nofun
  · refine iff_of_false ?_ hlong
    rw [hread]
    nofun

/-- **The first byte that is no digit is refused** if no number overflows before. -/
theorem readDecimal_eq_invalid_iff :
    readDecimal bs = .error (.invalid i b) ↔ ¬ Overlong bs ∧ FirstOutside isDecimal bs i b := by
  rcases readDecimal_cases bs with ⟨hlong, op, hread⟩ | ⟨hlong, ⟨j, c, h, hread⟩ | ⟨hall, v, hread⟩⟩
  · rw [hread]
    exact iff_of_false nofun fun h => h.1 hlong
  · rw [hread, and_iff_right hlong]
    constructor
    · rintro ⟨⟩
      exact h
    · intro h'
      obtain ⟨rfl, rfl⟩ := h.unique h'
      rfl
  · rw [hread]
    exact iff_of_false nofun fun h => h.2.not_all hall

/-- Decimal digits have a value unless it is too large. -/
theorem exists_readDecimal_iff_not_overlong :
    (∃ v, readDecimal bs = .ok v) ↔ ¬ Overlong bs ∧ bs.all isDecimal = true := by
  rcases readDecimal_cases bs with ⟨hlong, op, hread⟩ | ⟨hlong, ⟨j, c, h, hread⟩ | ⟨hall, hread⟩⟩
  · rw [hread]
    exact iff_of_false nofun fun h => h.1 hlong
  · rw [hread]
    exact iff_of_false nofun fun h' => h.not_all h'.2
  · exact iff_of_true hread ⟨hlong, hall⟩

theorem readDecimal_ne_overflow (hlen : bs.length ≤ 9) (op : WordOp) :
    readDecimal bs ≠ .error (.overflow op) := by
  intro h
  obtain ⟨front, hfront, hall, hlong⟩ := exists_overflow_iff.1 ⟨op, h⟩
  have hlt := decimal_lt_of_length_le hall (Nat.le_trans hfront.length_le hlen)
  exact Nat.not_lt.2 hlong hlt

/-! ## Hexadecimal digits -/

theorem toNat_hexValue?_ofNat : ∀ n : Fin 256, ∀ d ∈ hexValue? (UInt8.ofNat n),
    d.toNat = hexToNat (UInt8.ofNat n) := by
  decide +kernel

theorem toNat_of_hexValue? {d : UInt8} (h : hexValue? b = some d) : d.toNat = hexToNat b := by
  have hn := toNat_hexValue?_ofNat ⟨b.toNat, b.toNat_lt⟩
  rw [UInt8.ofNat_toNat] at hn
  exact hn d h

/-- **What is read of hexadecimal digits** is the number that they spell, as far as 32 bits go. -/
theorem toNat_of_readHex (h : readHex bs = .ok v) : v.toNat = hexadecimal bs % 2 ^ 32 := by
  induction bs using List.reverseRecOn generalizing v with
  | nil =>
    cases h
    rfl
  | append_singleton bs b ih =>
    rw [readHex, readHexFrom_append, bind_eq_ok] at h
    obtain ⟨front, hfront, hlast⟩ := h
    have hspelled : hexadecimal (bs ++ [b]) = hexadecimal bs * 16 + hexToNat b := List.foldl_append
    rw [readHexFrom] at hlast
    cases hb : hexValue? b with
    | none =>
      rw [hb] at hlast
      cases hlast
    | some d =>
      rw [hb] at hlast
      cases hlast
      have hlt := hexValue?_lt hb
      rw [toNat_appendHex front hlt, ih hfront, hspelled, ← toNat_of_hexValue? hb]
      omega

theorem readHex_of_firstOutside (h : FirstOutside isHex bs i b) :
    readHex bs = .error (.invalid i b) := by
  obtain ⟨v, hv⟩ := exists_readHex_iff.2 h.before
  rw [readHex] at hv
  rw [readHex, h.eq_append, readHexFrom_append, hv, ok_bind, readHexFrom,
    hexValue?_of_not_isHex (Bool.eq_false_iff.1 h.outside), h.length_take, Nat.zero_add]

/-- **The ways in which hexadecimal reading can end.** -/
theorem readHex_cases (bs : Bytes) :
    (∃ i b, FirstOutside isHex bs i b ∧ readHex bs = .error (.invalid i b)) ∨
      bs.all isHex = true ∧ ∃ v, readHex bs = .ok v := by
  rcases all_or_firstOutside isHex bs with hall | ⟨i, b, h⟩
  · exact .inr ⟨hall, exists_readHex_iff.2 hall⟩
  · exact .inl ⟨i, b, h, readHex_of_firstOutside h⟩

theorem readHex_eq_invalid_iff :
    readHex bs = .error (.invalid i b) ↔ FirstOutside isHex bs i b := by
  refine ⟨fun hread => ?_, readHex_of_firstOutside⟩
  rcases readHex_cases bs with ⟨j, c, h, hread'⟩ | ⟨-, v, hread'⟩
  · rw [hread] at hread'
    cases hread'
    exact h
  · rw [hread] at hread'
    cases hread'

theorem readHex_ne_overflow (bs : Bytes) (op : WordOp) :
    readHex bs ≠ .error (.overflow op) := by
  rcases readHex_cases bs with ⟨i, b, -, hread⟩ | ⟨-, v, hread⟩
  · rw [hread]
    nofun
  · rw [hread]
    nofun

/-! ## Reading and writing -/

/-- What comes of reading the bytes as decimal digits. -/
structure DecimalLaws (bs : Bytes) : Prop where
  overflow : (∃ op, readDecimal bs = .error (.overflow op)) ↔ Overlong bs
  refused : ∀ i b, readDecimal bs = .error (.invalid i b) ↔
    ¬ Overlong bs ∧ FirstOutside isDecimal bs i b
  read : (∃ v, readDecimal bs = .ok v) ↔ ¬ Overlong bs ∧ bs.all isDecimal = true
  value : ∀ v, readDecimal bs = .ok v → v.toNat = decimal bs ∧ writeDecimal bs.length v = bs

/-- What comes of reading the bytes as hexadecimal digits. More than eight of them are read, but
not written back. -/
structure HexLaws (bs : Bytes) : Prop where
  no_overflow : ∀ op, readHex bs ≠ .error (.overflow op)
  refused : ∀ i b, readHex bs = .error (.invalid i b) ↔ FirstOutside isHex bs i b
  read : (∃ v, readHex bs = .ok v) ↔ bs.all isHex = true
  value : ∀ v, readHex bs = .ok v → v.toNat = hexadecimal bs % 2 ^ 32 ∧
    (bs.length ≤ 8 → writeHex bs.length v = bs.map upper)

theorem decimalLaws (bs : Bytes) : DecimalLaws bs where
  overflow := exists_overflow_iff
  refused _ _ := readDecimal_eq_invalid_iff
  read := exists_readDecimal_iff_not_overlong
  value _ h := ⟨(readDecimal_eq_ok_iff.1 h).2, writeDecimal_of_readDecimal h⟩

theorem hexLaws (bs : Bytes) : HexLaws bs where
  no_overflow := readHex_ne_overflow bs
  refused _ _ := readHex_eq_invalid_iff
  read := exists_readHex_iff
  value _ h := ⟨toNat_of_readHex h, writeHex_of_readHex h⟩

/-- **Digits are read back at every width**, modulo the power of the radix, **and bytes of any
length are refused exactly where they have no value.** -/
theorem read_back_or_refused :
    (∀ (width : Nat) (v : UInt32),
      (∃ r, readDecimal (writeDecimal width v) = .ok r ∧ r.toNat = v.toNat % 10 ^ width) ∧
        ∃ r, readHex (writeHex width v) = .ok r ∧ r.toNat = v.toNat % 16 ^ width) ∧
      ∀ bs, DecimalLaws bs ∧ HexLaws bs := by
  refine ⟨fun width v => ⟨?decimal, ?hex⟩, fun bs => ⟨decimalLaws bs, hexLaws bs⟩⟩
  case decimal => exact ⟨_, readDecimal_writeDecimal width v, toNat_ofNat_of_le (Nat.mod_le _ _)⟩
  case hex => exact ⟨_, readHex_writeHex width v, toNat_ofNat_of_le (Nat.mod_le _ _)⟩

/-- 2 ^ 32 overflows before the letter behind it is met, one less does not, and is written back; of
hexadecimal letters, the lowercase ones are written in uppercase. -/
theorem read_back_or_refused_at_the_limit :
    let digits (last : Char) := Bytes.ascii ['4', '2', '9', '4', '9', '6', '7', '2', '9', last]
    (∃ op, readDecimal (digits '6' ++ ['x'.toUInt8]) = .error (.overflow op)) ∧
      FirstOutside isDecimal (digits '5' ++ ['x'.toUInt8]) 10 'x'.toUInt8 ∧
      writeDecimal 10 4294967295 = digits '5' ∧
      writeHex 4 0xBEEF = (Bytes.ascii ['b', 'E', 'e', 'F']).map upper := by
  intro digits
  have hlaws := read_back_or_refused.2
  have hlong : Overlong (digits '6' ++ ['x'.toUInt8]) :=
    ⟨digits '6', List.prefix_append _ _, by decide +kernel, by decide +kernel⟩
  have hbad : readDecimal (digits '5' ++ ['x'.toUInt8]) = .error (.invalid 10 'x'.toUInt8) := by
    decide +kernel
  have hlimit : readDecimal (digits '5') = .ok 4294967295 := by
    decide +kernel
  have hhex : readHex (Bytes.ascii ['b', 'E', 'e', 'F']) = .ok 0xBEEF := by
    decide +kernel
  exact ⟨(hlaws _).1.overflow.2 hlong, (((hlaws _).1.refused _ _).1 hbad).2,
    ((hlaws _).1.value _ hlimit).2, ((hlaws _).2.value _ hhex).2 (by decide)⟩

end DomeLink.Digits
