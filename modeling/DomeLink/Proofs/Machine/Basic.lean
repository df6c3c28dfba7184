import DomeLink.Proofs.Outcome
import DomeLink.Wire.Fault

/-!
# A machine that can trap

The definitions of this library compute with numbers and lists that have no limits. A machine has
them: sizes are words of 64 bits, values are words of their width, and bytes lie in memory. It
stops without a result, it traps, where a computation leaves these limits: where a byte is taken
from outside a byte string, or where the result of a word operation does not fit its word (`Trap`).

The modules that follow say how a machine reads and writes frames, one operation after the other as
it is done there, with every index, every piece of a byte string and every word operation checked.
`Computes` says of such a computation that it does not trap: it comes to what the definition says,
and that is a value or a refusal. Both are kept as computations are put one behind the other
(`Computes.bind`).
-/

namespace DomeLink.Machine

/-- A word operation whose result does not fit the word. -/
inductive Overflow
  | add
  | subtract
  | multiply
  | negate
  | shift
  deriving DecidableEq, Repr

/-- Why a machine stops without a result. -/
inductive Trap
  /-- There is no byte at the index. -/
  | index (index length : Nat)
  /-- There is no such piece of the byte string. -/
  | slice (first last length : Nat)
  /-- The bytes to copy are not as many as the piece that they are to fill. -/
  | copy (given room : Nat)
  /-- So many bytes do not fit in memory. -/
  | memory (length : Nat)
  /-- Chunks of no bytes have no end. -/
  | emptyChunk
  | overflow (op : Overflow)
  deriving DecidableEq, Repr

/-- Why a computation has no value. -/
inductive Stop (ε : Type)
  | refused (e : ε)
  | trapped (trap : Trap)
  deriving DecidableEq, Repr

/-- A computation of the machine, which can be refused and can trap. -/
abbrev Run (ε α : Type) := Except (Stop ε) α

variable {ε ε' α β : Type}

/-- Refuses the input. -/
def refuse (e : ε) : Run ε α := .error (.refused e)

def trap (t : Trap) : Run ε α := .error (.trapped t)

/-- A computation without limits as one of the machine: it is refused where that is. -/
def refusing (x : Except ε α) : Run ε α := x.mapError .refused

/-- Looks whether a computation has a value or is refused. A trap goes through. -/
def attempt : Run ε α → Run ε' (Except ε α)
  | .ok a => .ok (.ok a)
  | .error (.refused e) => .ok (.error e)
  | .error (.trapped t) => trap t

/-! ## Words -/

/-- The number of sizes. -/
def sizes : Nat := UInt64.size

/-- Half of it: no byte string has so many bytes. -/
def memory : Nat := UInt64.size / 2

theorem memory_pos : 0 < memory := by decide

theorem memory_add_memory : memory + memory = sizes := by decide

def addSize (a b : Nat) : Run ε Nat := if a + b < sizes then .ok (a + b) else trap (.overflow .add)

def subSize (a b : Nat) : Run ε Nat := if b ≤ a then .ok (a - b) else trap (.overflow .subtract)

def addByte (a b : UInt8) : Run ε UInt8 :=
  if a.toNat + b.toNat < UInt8.size then .ok (a + b) else trap (.overflow .add)

def subByte (a b : UInt8) : Run ε UInt8 :=
  if b ≤ a then .ok (a - b) else trap (.overflow .subtract)

def subHalf (a b : UInt16) : Run ε UInt16 :=
  if b ≤ a then .ok (a - b) else trap (.overflow .subtract)

def negHalf (a : Int16) : Run ε Int16 :=
  if a = Int16.minValue then trap (.overflow .negate) else .ok (-a)

def addWord (a b : UInt32) : Run ε UInt32 :=
  if a.toNat + b.toNat < UInt32.size then .ok (a + b) else trap (.overflow .add)

def mulWord (a b : UInt32) : Run ε UInt32 :=
  if a.toNat * b.toNat < UInt32.size then .ok (a * b) else trap (.overflow .multiply)

/-- Shifts to the left; bits that leave the word are dropped. -/
def shlWord (a : UInt32) (count : Nat) : Run ε UInt32 :=
  if count < 32 then .ok (a <<< UInt32.ofNat count) else trap (.overflow .shift)

section

variable {a b : Nat}

theorem addSize_eq (h : a + b < sizes) : (addSize a b : Run ε Nat) = .ok (a + b) := if_pos h

theorem subSize_eq (h : b ≤ a) : (subSize a b : Run ε Nat) = .ok (a - b) := if_pos h

end

theorem addByte_eq {a b : UInt8} (h : a.toNat + b.toNat < UInt8.size) :
    (addByte a b : Run ε UInt8) = .ok (a + b) := if_pos h

theorem subByte_eq {a b : UInt8} (h : b ≤ a) : (subByte a b : Run ε UInt8) = .ok (a - b) := if_pos h

theorem subHalf_eq {a b : UInt16} (h : b ≤ a) : (subHalf a b : Run ε UInt16) = .ok (a - b) :=
  if_pos h

theorem negHalf_eq {a : Int16} (h : a ≠ Int16.minValue) : (negHalf a : Run ε Int16) = .ok (-a) :=
  if_neg h

theorem addWord_eq {a b : UInt32} (h : a.toNat + b.toNat < UInt32.size) :
    (addWord a b : Run ε UInt32) = .ok (a + b) := if_pos h

theorem mulWord_eq {a b : UInt32} (h : a.toNat * b.toNat < UInt32.size) :
    (mulWord a b : Run ε UInt32) = .ok (a * b) := if_pos h

/-! ## Byte strings -/

/-- The byte at the index. -/
def byteOf (bs : Bytes) (index : Nat) : Run ε UInt8 :=
  match bs[index]? with
  | some b => .ok b
  | none => trap (.index index bs.length)

/-- The bytes from the first place up to the last one, which is not among them. -/
def sliceOf (bs : Bytes) (first last : Nat) : Run ε Bytes :=
  if first ≤ last ∧ last ≤ bs.length then .ok ((bs.drop first).take (last - first))
  else trap (.slice first last bs.length)

/-- The same bytes, if the byte string reaches so far. -/
def get? (bs : Bytes) (first last : Nat) : Option Bytes :=
  if first ≤ last ∧ last ≤ bs.length then some ((bs.drop first).take (last - first)) else none

/-- The byte string with other bytes from the first place on. -/
def overlay (bs : Bytes) (first : Nat) (source : Bytes) : Bytes :=
  bs.take first ++ source ++ bs.drop (first + source.length)

/-- Copies bytes to the piece from the first place up to the last one. -/
def copyTo (bs : Bytes) (first last : Nat) (source : Bytes) : Run ε Bytes := do
  let room ← sliceOf bs first last
  if source.length = room.length then .ok (overlay bs first source)
  else trap (.copy source.length room.length)

/-- The byte string with another byte at the index. -/
def setByte (bs : Bytes) (index : Nat) (b : UInt8) : Run ε Bytes :=
  if index < bs.length then .ok (bs.set index b) else trap (.index index bs.length)

/-- The byte string with more bytes behind it. -/
def extend (bs more : Bytes) : Run ε Bytes :=
  if bs.length + more.length < memory then .ok (bs ++ more)
  else trap (.memory (bs.length + more.length))

section

variable {bs source : Bytes} {first last index : Nat} {b : UInt8}

theorem byteOf_eq (h : bs[index]? = some b) : (byteOf bs index : Run ε UInt8) = .ok b := by
  rw [byteOf, h]

theorem sliceOf_eq (h : first ≤ last) (h' : last ≤ bs.length) :
    (sliceOf bs first last : Run ε Bytes) = .ok ((bs.drop first).take (last - first)) :=
  if_pos ⟨h, h'⟩

theorem sliceOf_zero (h : last ≤ bs.length) :
    (sliceOf bs 0 last : Run ε Bytes) = .ok (bs.take last) := sliceOf_eq (Nat.zero_le last) h

theorem sliceOf_length (h : first ≤ bs.length) :
    (sliceOf bs first bs.length : Run ε Bytes) = .ok (bs.drop first) := by
  rw [sliceOf_eq h (Nat.le_refl _), List.take_of_length_le (Nat.le_of_eq List.length_drop)]

theorem get?_eq_slice? (bs : Bytes) (offset width : Nat) :
    get? bs offset (offset + width) = bs.slice? offset width := by
  simp [get?, Bytes.slice?]

theorem copyTo_eq (source : Bytes) (h : first + source.length ≤ bs.length) :
    (copyTo bs first (first + source.length) source : Run ε Bytes) =
      .ok (overlay bs first source) := by
  rw [copyTo, sliceOf_eq (Nat.le_add_right _ _) h, ok_bind, if_pos]
  rw [List.length_take, List.length_drop]
  omega

theorem setByte_eq (h : index < bs.length) (b : UInt8) :
    (setByte bs index b : Run ε Bytes) = .ok (bs.set index b) := if_pos h

theorem extend_eq (h : bs.length + source.length < memory) :
    (extend bs source : Run ε Bytes) = .ok (bs ++ source) := if_pos h

end

/-! ## Computations that do not trap -/

theorem attempt_refusing (x : Except ε α) : (attempt (refusing x) : Run ε' _) = .ok x := by
  cases x <;> rfl

/-- **The machine comes to what the definition says**, and that is a value or a refusal. -/
structure Computes (m : Run Fault α) (x : Outcome α) : Prop where
  eq : m = refusing x
  refusal : ∀ fault, x = .error fault → fault.isCrash = false

variable {m : Run Fault α} {x : Outcome α}

theorem computes_ok (a : α) : Computes (.ok a) (.ok a) := by
  refine ⟨rfl, ?_⟩
  rintro _ ⟨⟩

theorem computes_refuse {fault : Fault} (h : fault.isCrash = false) :
    Computes (refuse fault : Run Fault α) (.error fault) := by
  refine ⟨rfl, ?_⟩
  rintro _ ⟨⟩
  exact h

/-- **One computation after the other.** -/
theorem Computes.bind {f : α → Run Fault β} {g : α → Outcome β} (h : Computes m x)
    (hf : ∀ a, x = .ok a → Computes (f a) (g a)) : Computes (m >>= f) (x >>= g) := by
  rw [h.eq]
  cases hx : x with
  | error fault => exact computes_refuse (h.refusal fault hx)
  | ok a => exact hf a hx

/-- Both computations look at the same condition. -/
theorem computes_ite {p : Prop} [Decidable p] {m' : Run Fault α} {x' : Outcome α}
    (htrue : p → Computes m x) (hfalse : ¬ p → Computes m' x') :
    Computes (if p then m else m') (if p then x else x') := by
  by_cases hp : p
  · rw [if_pos hp, if_pos hp]
    exact htrue hp
  · rw [if_neg hp, if_neg hp]
    exact hfalse hp

theorem Computes.map (h : Computes m x) (f : α → β) : Computes (f <$> m) (f <$> x) := by
  rw [h.eq]
  cases hx : x with
  | error fault => exact computes_refuse (h.refusal fault hx)
  | ok a => exact computes_ok (f a)

theorem Computes.attempt (h : Computes m x) : (attempt m : Run ε _) = .ok x := by
  rw [h.eq, attempt_refusing]

end DomeLink.Machine
