import DomeLink.Json.Record

/-!
# Values as JSON

Model of the JSON forms of words, texts and enumerations.

A `JsonForm` says how the values of a type are written and which JSON values are read as one. Words
are integers within their range. A value of an enumeration is its name, or an object whose one key
is the name and whose value is `null`.

Out of scope: why a value is refused.
-/

namespace DomeLink

/-- How the values of a type stand in JSON. -/
structure JsonForm (α : Type) where
  toJson : α → Json
  ofJson? : Json → Option α

namespace JsonForm

/-- Bytes. -/
def uint8 : JsonForm UInt8 where
  toJson n := .int n.toNat
  ofJson? x := (x.intIn? 0 255).map fun n => UInt8.ofNat n.toNat

/-- Words of 16 bits. -/
def uint16 : JsonForm UInt16 where
  toJson n := .int n.toNat
  ofJson? x := (x.intIn? 0 65535).map fun n => UInt16.ofNat n.toNat

/-- Words of 32 bits. -/
def uint32 : JsonForm UInt32 where
  toJson n := .int n.toNat
  ofJson? x := (x.intIn? 0 4294967295).map fun n => UInt32.ofNat n.toNat

/-- Words of 64 bits. -/
def uint64 : JsonForm UInt64 where
  toJson n := .int n.toNat
  ofJson? x := (x.intIn? 0 18446744073709551615).map fun n => UInt64.ofNat n.toNat

/-- Signed words of 16 bits. -/
def int16 : JsonForm Int16 where
  toJson n := .int n.toInt
  ofJson? x := (x.intIn? (-32768) 32767).map Int16.ofInt

/-- Texts. -/
def string : JsonForm String where
  toJson := .text
  ofJson? := Json.text?

/-- The values of an enumeration, by name. -/
def choice {α : Type} (name : α → String) (ofName? : String → Option α) : JsonForm α where
  toJson a := .text (name a)
  ofJson?
    | .str (.plain s) => ofName? s
    | .obj [(.plain s, .null)] => ofName? s
    | _ => none

/-- Records with the given members; members that are left out keep the value of `start`. -/
def record {σ : Type} (members : List (JsonMember σ)) (missing : JsonMember.Missing) (start : σ) :
    JsonForm σ where
  toJson := JsonMember.toJson members
  ofJson? := JsonMember.ofJson? members missing start

end JsonForm

/-- The member of a record that holds a field of the given form. -/
def JsonMember.field {σ α : Type} (key : String) (form : JsonForm α) (get : σ → α)
    (put : α → σ → σ) : JsonMember σ where
  key := key
  get s := form.toJson (get s)
  set? x s := (form.ofJson? x).map fun a => put a s

end DomeLink
