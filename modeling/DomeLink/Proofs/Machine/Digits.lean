import DomeLink.Proofs.Machine.Basic
import DomeLink.Proofs.Wire.Checksum
import DomeLink.Proofs.Wire.Numbers

/-!
# Digits on the machine

How the machine reads and writes digits. Letters are no hazard: bits that leave a word are shifted
out. Decimal digits are one, ten of them need not fit a word; but no field has more than nine
(`readDecimalFrom_eq`), and the digits that are written are single ones.

* `computes_hexField`, `computes_decimalField`: the fields of a frame are read without a trap.
* `writeHex_eq`, `writeDecimal_eq`: fields are written without a trap, whatever the value.
-/

namespace DomeLink.Machine

variable {ε : Type}

/-! ## Reading -/

/-- The value of hexadecimal digits, read on from the value `acc` of the first `index` digits. -/
def readHexFrom (acc : UInt32) (index : Nat) : Bytes → Run Digits.Fault UInt32
  | [] => .ok acc
  | b :: rest =>
    match Digits.hexValue? b with
    | some v => do
      let shifted ← shlWord acc 4
      readHexFrom (shifted ||| v.toUInt32) (index + 1) rest
    | none => refuse (.invalid index b)

/-- The value of one more decimal digit after those of value `acc`. -/
def appendDecimal (acc : UInt32) (b : UInt8) : Run ε UInt32 := do
  let tens ← mulWord acc 10
  let digit ← subByte b 0x30
  addWord tens digit.toUInt32

/-- The value of decimal digits, read on from the value `acc` of the first `index` digits. -/
def readDecimalFrom (acc : UInt32) (index : Nat) : Bytes → Run Digits.Fault UInt32
  | [] => .ok acc
  | b :: rest =>
    if Digits.isDecimal b then do
      let next ← appendDecimal acc b
      readDecimalFrom next (index + 1) rest
    else refuse (.invalid index b)

theorem readHexFrom_eq (acc : UInt32) (index : Nat) (bs : Bytes) :
    readHexFrom acc index bs = refusing (Digits.readHexFrom acc index bs) := by
  induction bs generalizing acc index with
  | nil => rfl
  | cons b bs ih =>
    simp only [readHexFrom, Digits.readHexFrom]
    cases Digits.hexValue? b with
    | none => rfl
    | some v => exact ih _ _

/-- A digit behind at most eight others fits the word. -/
theorem exists_appendDecimal {acc : UInt32} {b : UInt8} {k : Nat} (hacc : acc.toNat < 10 ^ k)
    (hk : k + 1 ≤ 9) (hb : Digits.isDecimal b = true) :
    ∃ next : UInt32, next.toNat < 10 ^ (k + 1) ∧
      (appendDecimal acc b : Run ε UInt32) = .ok next ∧
      Digits.appendDecimal acc (b - 0x30) = .ok next := by
  have hdigit := Digits.decimalValue?_lt (Digits.decimalValue?_of_isDecimal hb)
  have hle : (0x30 : UInt8) ≤ b := by
    rw [Digits.isDecimal, Bool.and_eq_true, decide_eq_true_eq] at hb
    exact hb.1
  have hroom : 10 ^ (k + 1) ≤ 10 ^ 9 := Nat.pow_le_pow_right (by decide) hk
  have hnext : acc.toNat * 10 + (b - 0x30).toNat < 10 ^ (k + 1) := by
    rw [Nat.pow_succ]
    omega
  have hsize : acc.toNat * 10 + (b - 0x30).toNat < UInt32.size := by
    simp only [UInt32.size]
    omega
  have htens : (acc * 10).toNat = acc.toNat * 10 := by
    rw [UInt32.toNat_mul]
    exact Nat.mod_eq_of_lt (Nat.lt_of_le_of_lt (Nat.le_add_right _ _) hsize)
  have hvalue : Digits.appendDecimal acc (b - 0x30) = .ok (acc * 10 + (b - 0x30).toUInt32) := by
    rw [Digits.appendDecimal, if_pos (Nat.lt_of_le_of_lt (Nat.le_add_right _ _) hsize), if_pos hsize]
  refine ⟨_, ?_, ?_, hvalue⟩
  · rw [(Digits.appendDecimal_eq_ok.1 hvalue).2]
    exact hnext
  · rw [appendDecimal, mulWord_eq (Nat.lt_of_le_of_lt (Nat.le_add_right _ _) hsize), ok_bind,
      subByte_eq hle, ok_bind, addWord_eq]
    rw [htens, UInt8.toNat_toUInt32]
    exact hsize

/-- **Up to nine decimal digits fit a word**, whatever they are. -/
theorem readDecimalFrom_eq {acc : UInt32} {k : Nat} (hacc : acc.toNat < 10 ^ k) (index : Nat)
    (bs : Bytes) (hk : k + bs.length ≤ 9) :
    readDecimalFrom acc index bs = refusing (Digits.readDecimalFrom acc index bs) := by
  induction bs generalizing acc index k with
  | nil => rfl
  | cons b bs ih =>
    rw [readDecimalFrom, Digits.readDecimalFrom_cons]
    rw [List.length_cons] at hk
    by_cases hb : Digits.isDecimal b = true
    · obtain ⟨next, hlt, hmachine, hvalue⟩ := exists_appendDecimal hacc (by omega) hb
      rw [if_pos hb, if_pos hb, hmachine, hvalue]
      exact ih hlt (index + 1) (by omega)
    · rw [if_neg hb, if_neg hb]
      rfl

-- Ten digits need not fit.
example : readDecimalFrom 0 0 (.ascii ['4', '2', '9', '4', '9', '6', '7', '2', '9', '6']) =
    trap (.overflow .add) := rfl

/-- The machine reads the bytes as the definition does, and only one of the bytes can be refused. -/
structure Reads (bs : Bytes) (m : Run Digits.Fault UInt32) (x : Except Digits.Fault UInt32) :
    Prop where
  eq : m = refusing x
  refusal : ∀ fault, x = .error fault →
    ∃ index byte, fault = .invalid index byte ∧ index < bs.length

theorem reads_hex (bs : Bytes) : Reads bs (readHexFrom 0 0 bs) (Digits.readHex bs) := by
  refine ⟨readHexFrom_eq 0 0 bs, ?_⟩
  rintro (⟨index, byte⟩ | op) h
  · have hfirst := Digits.readHex_eq_invalid_iff.1 h
    exact ⟨index, byte, rfl, (List.getElem?_eq_some_iff.1 hfirst.place).1⟩
  · exact absurd h (Digits.readHex_ne_overflow bs op)

theorem reads_decimal {bs : Bytes} (hbs : bs.length ≤ 9) :
    Reads bs (readDecimalFrom 0 0 bs) (Digits.readDecimal bs) := by
  refine ⟨readDecimalFrom_eq (k := 0) (by decide) 0 bs (by omega), ?_⟩
  rintro (⟨index, byte⟩ | op) h
  · have hfirst := (Digits.readDecimal_eq_invalid_iff.1 h).2
    exact ⟨index, byte, rfl, (List.getElem?_eq_some_iff.1 hfirst.place).1⟩
  · exact absurd h (Digits.readDecimal_ne_overflow hbs op)

/-! ## Fields -/

/-- The field of `width` bytes at `offset`. -/
def field (frame : Bytes) (offset width : Nat) : Run Fault Bytes := do
  let last ← addSize offset width
  match get? frame offset last with
  | some bs => .ok bs
  | none => refuse (.tooShort last frame.length)

/-- Digits that stand in a frame from `offset` on: the byte that is refused is named by its place
in the frame. -/
def located (offset : Nat) (m : Run Digits.Fault UInt32) : Run Fault UInt32 := do
  match ← attempt m with
  | .ok v => .ok v
  | .error (.invalid index byte) => do
    let place ← addSize offset index
    refuse (.digit place byte)
  | .error (.overflow op) => refuse (.overflow op)

/-- The value of the hexadecimal field at `offset`. -/
def hexField (frame : Bytes) (offset width : Nat) : Run Fault UInt32 := do
  let chars ← field frame offset width
  located offset (readHexFrom 0 0 chars)

/-- The value of the decimal field at `offset`. -/
def decimalField (frame : Bytes) (offset width : Nat) : Run Fault UInt32 := do
  let chars ← field frame offset width
  located offset (readDecimalFrom 0 0 chars)

section

variable {frame : Bytes} {offset width : Nat}

theorem computes_field (h : offset + width < sizes) :
    Computes (field frame offset width) (frame.field offset width) := by
  rw [field, addSize_eq h, ok_bind, get?_eq_slice?, Bytes.field]
  cases frame.slice? offset width with
  | some bs => exact computes_ok bs
  | none => exact computes_refuse rfl

theorem computes_located {bs : Bytes} {m : Run Digits.Fault UInt32}
    {x : Except Digits.Fault UInt32} (hm : Reads bs m x) (h : offset + bs.length < sizes) :
    Computes (located offset m) (x.mapError (Bytes.digitFault offset)) := by
  rw [located, hm.eq, attempt_refusing, ok_bind]
  cases hx : x with
  | ok v => exact computes_ok v
  | error fault =>
    obtain ⟨index, byte, rfl, hindex⟩ := hm.refusal fault hx
    have hplace : (addSize offset index : Run Fault Nat) = .ok (offset + index) :=
      addSize_eq (by omega)
    simp only [hplace, ok_bind]
    exact computes_refuse rfl

/-- **A hexadecimal field is read without a trap**, of any bytes. -/
theorem computes_hexField (h : offset + width < sizes) :
    Computes (hexField frame offset width) (frame.hexField offset width) := by
  refine (computes_field h).bind fun chars hchars => computes_located (reads_hex chars) ?_
  rwa [Bytes.length_of_field hchars]

/-- **A decimal field of up to nine bytes is read without a trap**, of any bytes. -/
theorem computes_decimalField (h : offset + width < sizes) (hwidth : width ≤ 9) :
    Computes (decimalField frame offset width) (frame.decimalField offset width) := by
  refine (computes_field h).bind fun chars hchars => ?_
  have hlen := Bytes.length_of_field hchars
  refine computes_located (reads_decimal ?_) ?_ <;> rwa [hlen]

end

/-! ## Writing -/

/-- The hexadecimal digits, in the order of their values. -/
def hexDigits : Bytes := .ascii
  ['0', '1', '2', '3', '4', '5', '6', '7', '8', '9', 'A', 'B', 'C', 'D', 'E', 'F']

/-- The hexadecimal digit of the low four bits. -/
def hexDigit (n : UInt8) : Run ε UInt8 := byteOf hexDigits (n &&& 0x0F).toNat

/-- The last `width` decimal digits of a value, beginning with the last one. -/
def writeDecimal : Nat → UInt32 → Run ε Bytes
  | 0, _ => .ok []
  | width + 1, v => do
    let last ← addByte 0x30 (v % 10).toUInt8
    let front ← writeDecimal width (v / 10)
    return front ++ [last]

/-- The last `width` hexadecimal digits of a value, beginning with the last one. -/
def writeHex : Nat → UInt32 → Run ε Bytes
  | 0, _ => .ok []
  | width + 1, v => do
    let last ← hexDigit (v &&& 0x0F).toUInt8
    let front ← writeHex width (v >>> 4)
    return front ++ [last]

theorem hexDigits_ofNat :
    ∀ d : Fin 16, hexDigits[d.val]? = some (Digits.hexDigit (UInt8.ofNat d)) := by
  decide

theorem hexDigit_eq (n : UInt8) : (hexDigit n : Run ε UInt8) = .ok (Digits.hexDigit n) := by
  have hlt : (n &&& 0x0F).toNat < 16 := by
    rw [Checksum.toNat_low]
    exact Nat.mod_lt _ (by decide)
  have hdigit := hexDigits_ofNat ⟨(n &&& 0x0F).toNat, hlt⟩
  have hmask : Digits.hexDigit (n &&& 0x0F) = Digits.hexDigit n := by
    simp only [Digits.hexDigit, UInt8.and_assoc]
    rfl
  simp only [UInt8.ofNat_toNat, hmask] at hdigit
  exact byteOf_eq hdigit

/-- A number below ten is added to the digit of zero. -/
theorem addByte_digit (v : UInt32) :
    (addByte 0x30 (v % 10).toUInt8 : Run ε UInt8) = .ok (0x30 + (v % 10).toUInt8) := by
  have hlt : (v % 10).toUInt8.toNat < 10 := by
    rw [UInt32.toNat_toUInt8, UInt32.toNat_mod]
    exact Nat.lt_of_le_of_lt (Nat.mod_le _ _) (Nat.mod_lt _ (by decide))
  refine addByte_eq ?_
  show 48 + (v % 10).toUInt8.toNat < 256
  omega

theorem writeDecimal_eq (width : Nat) (v : UInt32) :
    (writeDecimal width v : Run ε Bytes) = .ok (Digits.writeDecimal width v) := by
  induction width generalizing v with
  | zero => rfl
  | succ width ih =>
    rw [writeDecimal, addByte_digit, ok_bind, ih, ok_bind]
    rfl

theorem writeHex_eq (width : Nat) (v : UInt32) :
    (writeHex width v : Run ε Bytes) = .ok (Digits.writeHex width v) := by
  induction width generalizing v with
  | zero => rfl
  | succ width ih =>
    rw [writeHex, hexDigit_eq, ok_bind, ih, ok_bind]
    rfl

end DomeLink.Machine
