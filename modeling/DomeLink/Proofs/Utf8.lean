import DomeLink.Text.Utf8

/-!
# Encoded text is decoded again

The bytes that encode a character are scanned as the character, whatever follows them
(`scan_encode`), so an encoded text is decoded as it was (`decode?_toUTF8`).
-/

namespace DomeLink.Utf8

/-! ## Leading bytes, by the value bits that they carry -/

theorem lead?_two : ∀ k < 32, 2 ≤ k → lead? (k + 0xC0) = some (k, [tail]) := by
  decide

/-- The second byte has the narrower range where the character could be overlong or a surrogate. -/
theorem lead?_three : ∀ k < 16, lead? (k + 0xE0) =
    some (k, [⟨if k = 0 then 0xA0 else 0x80, if k = 13 then 0x9F else 0xBF⟩, tail]) := by
  decide

/-- The second byte has the narrower range where the character could be overlong or too large. -/
theorem lead?_four : ∀ k < 5, lead? (k + 0xF0) =
    some (k, [⟨if k = 0 then 0x90 else 0x80, if k = 4 then 0x8F else 0xBF⟩, tail, tail]) := by
  decide

/-! ## Characters -/

/-- A byte in its range adds its six bits to the value. -/
theorem complete_cons {r : ByteRange} {k : Nat} (hk : k < 64)
    (h : r.low ≤ k + 128 ∧ k + 128 ≤ r.high) (value count : Nat) (rs : List ByteRange)
    (rest : Bytes) :
    complete value count (r :: rs) (UInt8.ofNat (k + 128) :: rest) =
      complete (value * 64 + k) (count + 1) rs rest := by
  have hbyte : (UInt8.ofNat (k + 128)).toNat = k + 128 := UInt8.toNat_ofNat_of_lt'
    (show k + 128 < 256 by omega)
  rw [complete, hbyte, if_pos h, Nat.add_sub_cancel]

theorem complete_tail {k : Nat} (hk : k < 64) (value count : Nat) (rs : List ByteRange)
    (rest : Bytes) :
    complete value count (tail :: rs) (UInt8.ofNat (k + 128) :: rest) =
      complete (value * 64 + k) (count + 1) rs rest :=
  complete_cons hk ⟨Nat.le_add_left 128 k, show k + 128 ≤ 191 by omega⟩ value count rs rest

theorem scan_of_lead? {k : Nat} {b : Nat} (hb : b < 256) {ranges : List ByteRange}
    (h : lead? b = some (k, ranges)) (rest : Bytes) :
    scan (UInt8.ofNat b) rest = complete k 0 ranges rest := by
  rw [scan, UInt8.toNat_ofNat_of_lt' hb, h]

theorem scan_two {v : Nat} (hlow : 0x80 ≤ v) (hhigh : v ≤ 0x7FF) (rest : Bytes) :
    scan (UInt8.ofNat (v / 64 % 32 + 192)) (UInt8.ofNat (v % 64 + 128) :: rest) =
      (some (Char.ofNat v), 1) := by
  rw [scan_of_lead? (by omega) (lead?_two (v / 64 % 32) (by omega) (by omega)),
    complete_tail (by omega), complete]
  congr 3
  omega

theorem scan_three {v : Nat} (hlow : 0x800 ≤ v) (hhigh : v ≤ 0xFFFF)
    (hvalid : v < 0xD800 ∨ 0xDFFF < v) (rest : Bytes) :
    scan (UInt8.ofNat (v / 4096 % 16 + 224))
        (UInt8.ofNat (v / 64 % 64 + 128) :: UInt8.ofNat (v % 64 + 128) :: rest) =
      (some (Char.ofNat v), 2) := by
  rw [scan_of_lead? (by omega) (lead?_three (v / 4096 % 16) (by omega)),
    complete_cons (by omega) ⟨by dsimp only; split <;> omega, by dsimp only; split <;> omega⟩,
    complete_tail (by omega), complete]
  congr 3
  omega

theorem scan_four {v : Nat} (hlow : 0xFFFF < v) (hhigh : v < 0x110000) (rest : Bytes) :
    scan (UInt8.ofNat (v / 262144 % 8 + 240)) (UInt8.ofNat (v / 4096 % 64 + 128) ::
        UInt8.ofNat (v / 64 % 64 + 128) :: UInt8.ofNat (v % 64 + 128) :: rest) =
      (some (Char.ofNat v), 3) := by
  rw [scan_of_lead? (by omega) (lead?_four (v / 262144 % 8) (by omega)),
    complete_cons (by omega) ⟨by dsimp only; split <;> omega, by dsimp only; split <;> omega⟩,
    complete_tail (by omega), complete_tail (by omega), complete]
  congr 3
  omega

/-- The bytes of a character are scanned as the character. -/
theorem scan_encode (c : Char) : ∃ b more, String.utf8EncodeChar c = b :: more ∧
    ∀ rest, scan b (more ++ rest) = (some c, more.length) := by
  have hchar : Char.ofNat c.val.toNat = c := Char.ofNat_toNat c
  have hvalid : c.val.toNat < 0xD800 ∨ 0xDFFF < c.val.toNat ∧ c.val.toNat < 0x110000 := c.valid
  generalize hv : c.val.toNat = v at hchar hvalid
  unfold String.utf8EncodeChar
  dsimp only
  rw [hv]
  split
  · rename_i h
    refine ⟨_, [], rfl, fun rest => ?_⟩
    have hlead : lead? v = some (v, []) := if_pos (Nat.lt_succ_of_le h)
    rw [scan_of_lead? (by omega) hlead, complete, hchar]
    rfl
  split
  · refine ⟨_, [_], rfl, fun rest => ?_⟩
    rw [← hchar]
    exact scan_two (by omega) (by omega) rest
  split
  · refine ⟨_, [_, _], rfl, fun rest => ?_⟩
    rw [← hchar]
    exact scan_three (by omega) (by omega) (by omega) rest
  · refine ⟨_, [_, _, _], rfl, fun rest => ?_⟩
    rw [← hchar]
    exact scan_four (by omega) (by omega) rest

/-! ## Texts -/

/-- The bytes of the text. -/
def encode (cs : List Char) : Bytes := cs.flatMap String.utf8EncodeChar

theorem pieces_encode (cs : List Char) : pieces (encode cs) = cs.map some := by
  induction cs with
  | nil => rw [encode, List.flatMap_nil, pieces, List.map_nil]
  | cons c cs ih =>
    obtain ⟨b, more, hbytes, hscan⟩ := scan_encode c
    have hcons : encode (c :: cs) = b :: (more ++ encode cs) := by
      rw [encode, List.flatMap_cons, hbytes, List.cons_append]
      rfl
    rw [hcons, pieces, hscan, List.drop_left, ih, List.map_cons]

theorem decode?_encode (cs : List Char) : decode? (encode cs) = some cs := by
  rw [decode?, pieces_encode]
  induction cs with
  | nil => rfl
  | cons c cs ih =>
    rw [List.map_cons, List.mapM_cons, ih]
    rfl

theorem toList_toUTF8 (s : String) : s.toUTF8.data.toList = encode s.toList := by
  conv => lhs; rw [String.toUTF8, ← String.ofList_toList (s := s), String.toByteArray_ofList]
  rw [List.utf8Encode, List.data_toByteArray]
  rfl

/-- **The encoding of a text is decoded as the text.** -/
theorem decode?_toUTF8 (s : String) : decode? s.toUTF8.data.toList = some s.toList := by
  rw [toList_toUTF8, decode?_encode]

end DomeLink.Utf8
