import DomeLink.Line
import DomeLink.Proofs.Wire.History

/-!
# Whom the bytes of a line reach

A line is used by deeds in any order (`Deed`). Each leaves an `Event`: its fault, the frames that it
completed, and what reached a transport or a handler. The events so far, the latest first, are all
there is to know of the line (`Log.Sound`):

* `bound?` is the transport of the latest bind that succeeded, unless an unbind has followed;
* `handler?` is the handler registered last, unless it has been unregistered;
* `arrivals` are the chunks that have come since the latest unbind.

So whatever has been done to a line, the next deed does exactly what these three tell it to do:
`Log.routed`. In particular a frame is made of bytes of `arrivals` and of the chunk that completes
it, never of bytes that came before the transport was taken off.
-/

namespace DomeLink.Line

open Assembler (IsFrame Slices)
open Bytes (stop)

variable {τ η : Type}

/-- What can be done to a line. -/
inductive Deed (τ η : Type)
  | bind (t : τ)
  | unbind
  | register (h : η)
  | unregister
  | receive (chunk : Bytes)
  | transmit (bytes : Bytes)

/-- What a deed shows to the outside. -/
structure Event (τ η : Type) where
  deed : Deed τ η
  /-- Why the deed failed. -/
  fault : Option TransportFault := none
  /-- The number that a receipt returns. -/
  count : Nat := 0
  /-- What has reached a transport. -/
  sent : List (τ × Bytes) := []
  /-- What has reached a handler. -/
  delivered : List (η × Bytes) := []

/-- A deed: the line after it, and what it shows. -/
def perform (l : Line τ η) (d : Deed τ η) : Line τ η × Event τ η :=
  match d with
  | .bind t =>
    match l.bind t with
    | .ok after => (after, { deed := d })
    | .error fault => (l, { deed := d, fault := some fault })
  | .unbind => (l.unbind.1, { deed := d })
  | .register h => (l.register h, { deed := d })
  | .unregister => (l.unregister.1, { deed := d })
  | .receive chunk =>
    ((l.receive chunk).line,
      { deed := d, count := (l.receive chunk).count, delivered := (l.receive chunk).delivered })
  | .transmit bytes =>
    match l.transmit bytes with
    | .ok sent => (l, { deed := d, sent := [sent] })
    | .error fault => (l, { deed := d, fault := some fault })

theorem perform_bind (l : Line τ η) (t : τ) :
    l.perform (.bind t) =
      match l.transport with
      | some _ => (l, { deed := .bind t, fault := some .alreadyBound })
      | none => ({ l with transport := some t }, { deed := .bind t }) := by
  unfold perform bind isBound
  cases l.transport <;> rfl

theorem perform_transmit (l : Line τ η) (bytes : Bytes) :
    l.perform (.transmit bytes) =
      match l.transport with
      | some t => (l, { deed := .transmit bytes, sent := [(t, bytes)] })
      | none => (l, { deed := .transmit bytes, fault := some .notBound }) := by
  unfold perform transmit
  cases l.transport <;> rfl

/-- A line and what has been done to it. -/
structure Log (τ η : Type) where
  line : Line τ η
  /-- The events, the latest first. -/
  past : List (Event τ η) := []

/-- One more deed. -/
def Log.perform (g : Log τ η) (d : Deed τ η) : Log τ η where
  line := (g.line.perform d).1
  past := (g.line.perform d).2 :: g.past

/-- What becomes of a line with nobody on it. -/
def log (capacity : Nat) (deeds : List (Deed τ η)) : Log τ η :=
  deeds.foldl Log.perform { line := ofCapacity capacity }

/-! ## What the events tell -/

/-- The transport of the latest bind that succeeded, if no unbind has followed it. -/
def bound? : List (Event τ η) → Option τ
  | [] => none
  | e :: past =>
    match e.deed, e.fault with
    | .bind t, none => some t
    | .unbind, _ => none
    | _, _ => bound? past

/-- The handler that was registered last, if it has not been unregistered. -/
def handler? : List (Event τ η) → Option η
  | [] => none
  | e :: past =>
    match e.deed with
    | .register h => some h
    | .unregister => none
    | _ => handler? past

/-- The chunks that have come since the latest unbind, in their order. -/
def arrivals : List (Event τ η) → List Bytes
  | [] => []
  | e :: past =>
    match e.deed with
    | .unbind => []
    | .receive chunk => arrivals past ++ [chunk]
    | _ => arrivals past

/-- The frames that a chunk completes: a fresh assembler has taken in what has come since the latest
unbind, and takes in the chunk. -/
def completed (capacity : Nat) (past : List (Event τ η)) (chunk : Bytes) : List Bytes :=
  ((Assembler.pushAll { capacity } (arrivals past)).1.push chunk).2

/-! ## The line and its events -/

/-- The line is what its events tell. -/
structure Log.Sound (capacity : Nat) (g : Log τ η) : Prop where
  transport : g.line.transport = bound? g.past
  handler : g.line.handler = handler? g.past
  assembler : g.line.assembler = (Assembler.pushAll { capacity } (arrivals g.past)).1

theorem Log.Sound.perform {capacity : Nat} {g : Log τ η} (h : g.Sound capacity) (d : Deed τ η) :
    (g.perform d).Sound capacity := by
  obtain ⟨ht, hh, ha⟩ := h
  cases d with
  | bind t =>
    rw [Log.perform, perform_bind]
    cases hline : g.line.transport with
    | some _ => exact ⟨ht, hh, ha⟩
    | none => exact ⟨rfl, hh, ha⟩
  | unbind =>
    refine ⟨rfl, hh, ?_⟩
    show g.line.assembler.reset = { capacity }
    rw [ha, Assembler.reset, Assembler.capacity_pushAll]
  | register handler => exact ⟨ht, rfl, ha⟩
  | unregister => exact ⟨ht, rfl, ha⟩
  | receive chunk =>
    refine ⟨ht, hh, ?_⟩
    show (g.line.assembler.push chunk).1 =
      (Assembler.pushAll { capacity } (arrivals g.past ++ [chunk])).1
    rw [Assembler.pushAll_append, ha]
    rfl
  | transmit bytes =>
    rw [Log.perform, perform_transmit]
    cases hline : g.line.transport <;> exact ⟨ht, hh, ha⟩

theorem sound_log (capacity : Nat) (deeds : List (Deed τ η)) :
    (log capacity deeds).Sound capacity := by
  suffices hall : ∀ g : Log τ η, g.Sound capacity → (deeds.foldl Log.perform g).Sound capacity from
    hall _ ⟨rfl, rfl, rfl⟩
  induction deeds with
  | nil => exact fun g h => h
  | cons d deeds ih => exact fun g h => ih (g.perform d) (h.perform d)

/-- What a chunk completes is made of what has come since the latest unbind and is in no frame yet,
and of the chunk. -/
theorem slices_completed (capacity : Nat) (past : List (Event τ η)) (chunk : Bytes) :
    ∃ rest, rest <:+ (arrivals past).flatten ∧ stop ∉ rest ∧
      Slices (completed capacity past chunk) (rest ++ chunk) ∧
      ∀ frame ∈ completed capacity past chunk, IsFrame frame ∧ frame.length ≤ capacity := by
  have hfresh := Assembler.wellFormed_fresh capacity
  obtain ⟨rest, hrest⟩ := Assembler.pushAll_splits hfresh List.nil_suffix
    (List.not_mem_nil (a := stop)) (arrivals past)
  obtain ⟨done, hdone, -⟩ := hrest.slices
  obtain ⟨rest', hrest'⟩ := Assembler.push_splits
    (Assembler.wellFormed_pushAll hfresh (arrivals past)) hrest.suffix hrest.unfinished chunk
  refine ⟨rest, ⟨done, hdone.symm⟩, hrest.unfinished, hrest'.slices_all, fun frame hframe => ?_⟩
  have hframe := hrest'.frames frame hframe
  rwa [Assembler.capacity_pushAll] at hframe

/-! ## Every deed -/

/-- **Whom a deed reaches**, given what has been done before. -/
structure Routed (capacity : Nat) (g : Log τ η) (d : Deed τ η) (e : Event τ η) : Prop where
  /-- Bytes to send reach the transport on the line as they are, and once. Without a transport they
  reach nobody, which is the fault. Either way the line stays as it is. -/
  transmit : ∀ bytes, d = .transmit bytes →
    (g.perform d).line = g.line ∧
      match bound? g.past with
      | some t => e.sent = [(t, bytes)] ∧ e.fault = none
      | none => e.sent = [] ∧ e.fault = some .notBound
  /-- A transport can be put on a line without one only; else the line stays as it is. -/
  bind : ∀ t, d = .bind t →
    match bound? g.past with
    | some _ => e.fault = some .alreadyBound ∧ (g.perform d).line = g.line
    | none => e.fault = none
  /-- The frames that a chunk completes reach the handler, in their order, or nobody if there is
  none. They are counted in any case. -/
  receive : ∀ chunk, d = .receive chunk →
    e.count = (completed capacity g.past chunk).length ∧
      e.delivered =
        match handler? g.past with
        | some h => (completed capacity g.past chunk).map (h, ·)
        | none => []
  /-- These frames are disjoint slices, in their order, of the chunk with the bytes before it that
  have come since the latest unbind and are in no frame yet. -/
  slices : ∀ chunk, d = .receive chunk →
    ∃ rest, rest <:+ (arrivals g.past).flatten ∧ stop ∉ rest ∧
      Slices (completed capacity g.past chunk) (rest ++ chunk) ∧
      ∀ frame ∈ completed capacity g.past chunk, IsFrame frame ∧ frame.length ≤ capacity
  /-- Nothing else is sent. -/
  unsent : (∀ bytes, d ≠ .transmit bytes) → e.sent = []
  /-- Nothing else is delivered. -/
  undelivered : (∀ chunk, d ≠ .receive chunk) → e.delivered = []

/-- **Whatever has been done to a line**, the next deed reaches whom the events tell, and nobody
else. -/
theorem Log.routed (capacity : Nat) (deeds : List (Deed τ η)) (d : Deed τ η) :
    Routed capacity (log capacity deeds) d ((log capacity deeds).line.perform d).2 := by
  obtain ⟨ht, hh, ha⟩ := sound_log capacity deeds
  generalize log capacity deeds = g at ht hh ha
  constructor
  case transmit =>
    rintro bytes rfl
    rw [← ht, Log.perform, perform_transmit]
    cases g.line.transport <;> exact ⟨rfl, rfl, rfl⟩
  case bind =>
    rintro t rfl
    rw [← ht, Log.perform, perform_bind]
    cases g.line.transport with
    | some _ => exact ⟨rfl, rfl⟩
    | none => rfl
  case receive =>
    rintro chunk rfl
    rw [← hh, completed, ← ha]
    exact ⟨Assembler.completed_eq_length .., rfl⟩
  case slices => exact fun chunk _ => slices_completed capacity g.past chunk
  case unsent =>
    intro hd
    cases d with
    | bind t => rw [perform_bind]; cases g.line.transport <;> rfl
    | transmit bytes => exact absurd rfl (hd bytes)
    | _ => rfl
  case undelivered =>
    intro hd
    cases d with
    | bind t => rw [perform_bind]; cases g.line.transport <;> rfl
    | transmit bytes => rw [perform_transmit]; cases g.line.transport <;> rfl
    | receive chunk => exact absurd rfl (hd chunk)
    | _ => rfl

end DomeLink.Line
