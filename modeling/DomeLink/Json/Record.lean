import DomeLink.Json.Value

/-!
# Records as JSON

Model of the rules that derive the JSON form of a record from its members: what is written, and what
is read in which order, left out, or given twice.

A record type is described once, by the list of its members: the key, how the member is written and
how a value is put into it. The description serves both directions.

An object gives the members by key, in any order; members with other keys are ignored, and a known
key may not stand twice. An array gives them by position. `Missing` says whether members may be left
out, in which case they keep the value they have.
-/

namespace DomeLink

/-- A member of a record of type `σ`. -/
structure JsonMember (σ : Type) where
  key : String
  /-- The member as a value. -/
  get : σ → Json
  /-- The record with the member replaced, if the value fits it. -/
  set? : Json → σ → Option σ

namespace JsonMember

/-- What becomes of a member that is left out. -/
inductive Missing
  /-- It keeps its value. -/
  | kept
  /-- The record is refused. -/
  | refused
  deriving DecidableEq, Repr

variable {σ : Type}

/-- The record as an object, with the members in the order of the description. -/
def toJson (ms : List (JsonMember σ)) (s : σ) : Json :=
  Json.record (ms.map fun m => (m.key, m.get s))

/-- Puts in the members of an object; `seen` holds the keys that have been put in. -/
def ofMembers? (ms : List (JsonMember σ)) (seen : List String) (s : σ) :
    List (JsonText × Json) → Option (σ × List String)
  | [] => some (s, seen)
  | (.broken _, _) :: _ => none
  | (.plain k, x) :: rest =>
    match ms.find? fun m => m.key = k with
    | none => ofMembers? ms seen s rest
    | some m =>
      if k ∈ seen then none
      else
        match m.set? x s with
        | some s => ofMembers? ms (k :: seen) s rest
        | none => none

/-- Puts in the items of an array, one member after the other. -/
def ofItems? (missing : Missing) : List (JsonMember σ) → σ → List Json → Option σ
  | [], s, [] => some s
  | [], _, _ :: _ => none
  | _ :: _, s, [] => if missing = .kept then some s else none
  | m :: ms, s, x :: xs =>
    match m.set? x s with
    | some s => ofItems? missing ms s xs
    | none => none

/-- The record that a value describes, on top of `s`. -/
def ofJson? (ms : List (JsonMember σ)) (missing : Missing) (s : σ) : Json → Option σ
  | .obj members =>
    match ofMembers? ms [] s members with
    | some (s, seen) =>
      if missing = .kept ∨ ∀ m ∈ ms, m.key ∈ seen then some s else none
    | none => none
  | .arr items => ofItems? missing ms s items
  | _ => none

end JsonMember

end DomeLink
