/-!
# Flag words

Model of the flag types of `fields` and `command` in `plc-protocol` and of `handle` in `plc-driver`,
whose words keep bits that have no name.

A flag word is a word of bits, some of which have names. The names belong to the mechanism that the
word describes, so each mechanism has a `FlagTable` and words of different tables do not mix.
Bits without a name are kept as they come.

A set of flags is itself a word: `has`, `meets`, `insert`, `erase` and `assign` take one as the
mask. All of them act on each bit by itself.

Out of scope: all that such types offer and nothing here asks for, like complements and iteration.
-/

namespace DomeLink

/-- The name of a kind of flag word, its width, and the names of its bits in order. -/
structure FlagTable where
  typeName : String
  width : Nat
  /-- Each named flag with its mask. -/
  names : List (String × Nat)

/-- The number of words that the width allows. -/
def FlagTable.size (t : FlagTable) : Nat := Nat.pow 2 t.width

/-- A word of the flags in the table. -/
structure Flags (t : FlagTable) where
  bits : BitVec t.width
  deriving DecidableEq, Repr

namespace Flags

variable {t : FlagTable}

/-- The word without flags. -/
def empty : Flags t := ⟨0⟩

instance : EmptyCollection (Flags t) := ⟨empty⟩

instance : Inhabited (Flags t) := ⟨empty⟩

/-- The word whose bits spell the number; bits above the width are dropped. -/
def ofNat (n : Nat) : Flags t := ⟨BitVec.ofNat _ n⟩

/-- The number that the bits spell. -/
def toNat (x : Flags t) : Nat := x.bits.toNat

/-- No bit is set. -/
def isEmpty (x : Flags t) : Bool := x.bits == 0

/-- All flags of the mask are set. -/
def has (x mask : Flags t) : Bool := x.bits &&& mask.bits == mask.bits

/-- Some flag of the mask is set. -/
def meets (x mask : Flags t) : Bool := x.bits &&& mask.bits != 0

/-- The flags of either word. -/
def insert (x mask : Flags t) : Flags t := ⟨x.bits ||| mask.bits⟩

/-- The flags that the mask does not hold. -/
def erase (x mask : Flags t) : Flags t := ⟨x.bits &&& ~~~mask.bits⟩

/-- The flags of both words. -/
def common (x mask : Flags t) : Flags t := ⟨x.bits &&& mask.bits⟩

/-- Sets or clears the flags of the mask. -/
def assign (x mask : Flags t) (on : Bool) : Flags t := if on then x.insert mask else x.erase mask

/-- The low four bits, as one hexadecimal digit carries them. -/
def nibble (x : Flags t) : Flags t := ⟨x.bits &&& BitVec.ofNat _ 0x0F⟩

theorem ext_bits {x y : Flags t} (h : x.bits = y.bits) : x = y := by
  cases x; cases y; simp_all

@[simp] theorem toNat_ofNat (n : Nat) : (ofNat n : Flags t).toNat = n % t.size := by
  simp [ofNat, toNat, FlagTable.size]

end Flags

end DomeLink
