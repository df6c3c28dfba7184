import DomeLink.Proofs.Machine.Basic
import DomeLink.Proofs.Wire.Assembler

/-!
# Frames out of a byte stream on the machine

The loop that takes a chunk apart: one round for every end delimiter, and one for what is behind
the last one. A round cuts the rest of the chunk at the first delimiters in it, so its places are
there, and it leaves less than it found. The frames of a chunk are at most as many as its bytes, so
their number fits a word.

`push_eq` says that the loop comes to an end without a trap, whatever the chunk, with the frames of
`Assembler.push` and their number.
-/

namespace DomeLink.Machine

open Bytes (start stop)

variable {ε : Type} {a : Assembler} {bs rest pre : Bytes}

/-- The bytes from the first place up to the last one, which is among them. -/
def sliceThrough (bs : Bytes) (first last : Nat) : Run ε Bytes := do
  let next ← addSize last 1
  sliceOf bs first next

/-- The bytes behind the index. -/
def behind (bs : Bytes) (index : Nat) : Run ε Bytes := do
  let first ← addSize index 1
  sliceOf bs first bs.length

theorem length_of_behind {index : Nat} (h : (behind bs index : Run ε Bytes) = .ok rest) :
    rest.length < bs.length := by
  obtain ⟨first, hfirst, hslice⟩ := bind_eq_ok.1 h
  rw [addSize] at hfirst
  rw [sliceOf] at hslice
  split at hfirst
  case isFalse => cases hfirst
  case isTrue =>
    split at hslice
    case isFalse => cases hslice
    case isTrue hplace =>
      cases hfirst
      cases hslice
      rw [List.length_take, List.length_drop]
      omega

/-- Adds bytes to the frame in progress. -/
def append (a : Assembler) (bs : Bytes) : Run ε Assembler := do
  if bs.isEmpty || a.overflowed then return a
  else if ← outside a bs then return a
  else do
    let length ← addSize a.buffer.length bs.length
    if length > a.capacity then return { a with buffer := [], overflowed := true }
    else do
      let buffer ← extend a.buffer bs
      return { a with buffer }
where
  /-- The bytes belong to no frame. -/
  outside (a : Assembler) (bs : Bytes) : Run ε Bool :=
    if a.buffer.isEmpty then do
      let first ← byteOf bs 0
      return first ≠ start
    else return false

/-- Adds the bytes up to the end delimiter at the second place, or all of them. A start delimiter
at the first place opens a new frame, if it is not behind the end delimiter. -/
def takeIn (a : Assembler) (rest : Bytes) : Option Nat → Option Nat → Run ε Assembler
  | some s, some e =>
    if s < e then do
      let bs ← sliceThrough rest s e
      append a.reset bs
    else do
      let bs ← sliceThrough rest 0 e
      append a bs
  | none, some e => do
    let bs ← sliceThrough rest 0 e
    append a bs
  | some s, none => do
    let bs ← sliceOf rest s rest.length
    append a.reset bs
  | none, none => append a rest

/-- Takes in what is left of a chunk, after `delivered` frames of it: the assembler after it, the
frames that it completed, and the number of all frames. -/
def push (a : Assembler) (delivered : Nat) (rest : Bytes) : Run ε (Assembler × List Bytes × Nat) :=
  match rest.idxOf? stop with
  | none => do
    let last ← takeIn a rest (rest.idxOf? start) none
    return (last, [], delivered)
  | some e => do
    let full ← takeIn a rest (rest.idxOf? start) (some e)
    let delivered ← addSize delivered full.frame?.isSome.toNat
    match _h : (behind rest e : Run ε Bytes) with
    | .error stop => .error stop
    | .ok next => do
      let (last, frames, delivered) ← push full.reset delivered next
      return (last, full.frame?.toList ++ frames, delivered)
termination_by rest.length
decreasing_by exact length_of_behind _h

theorem outside_eq (h : bs ≠ []) :
    (append.outside a bs : Run ε Bool) = .ok (a.buffer.isEmpty && bs.head? ≠ some start) := by
  have hfirst : bs[0]? = some (bs.head h) := by
    rw [← List.head?_eq_getElem?, List.head?_eq_some_head h]
  rw [append.outside, byteOf_eq hfirst, ok_bind, List.head?_eq_some_head h]
  cases a.buffer.isEmpty <;> simp <;> rfl

/-- The frame in progress and the bytes that would follow it have a length, and they are only put
together within the capacity. -/
theorem append_eq (hcapacity : a.capacity < memory) (hbuffer : a.buffer.length < memory)
    (hbs : bs.length < memory) : (append a bs : Run ε Assembler) = .ok (a.append bs) := by
  have hsizes := memory_add_memory
  rw [append, Assembler.append]
  by_cases hskip : (bs.isEmpty || a.overflowed) = true
  · rw [if_pos hskip, if_pos hskip]
    rfl
  · have hne : bs ≠ [] := by
      rintro rfl
      exact hskip rfl
    rw [if_neg hskip, if_neg hskip, outside_eq hne, ok_bind]
    by_cases hout : (a.buffer.isEmpty && decide (bs.head? ≠ some start)) = true
    · rw [if_pos hout, if_pos hout]
      rfl
    · rw [if_neg hout, if_neg hout, addSize_eq (by omega), ok_bind]
      by_cases hlong : a.buffer.length + bs.length > a.capacity
      · rw [if_pos hlong, if_pos hlong]
        rfl
      · rw [if_neg hlong, if_neg hlong, extend_eq (by omega), ok_bind]
        rfl

theorem sliceThrough_eq {first last : Nat} (hfirst : first ≤ last) (hlast : last < bs.length)
    (hbs : bs.length < sizes) :
    (sliceThrough bs first last : Run ε Bytes) = .ok ((bs.take (last + 1)).drop first) := by
  rw [sliceThrough, addSize_eq (by omega), ok_bind, sliceOf_eq (by omega) (by omega),
    List.drop_take]

theorem behind_eq {index : Nat} (h : index < bs.length) (hbs : bs.length < sizes) :
    (behind bs index : Run ε Bytes) = .ok (bs.drop (index + 1)) := by
  rw [behind, addSize_eq (by omega), ok_bind, sliceOf_length h]

/-- The first place of a byte within the first bytes. -/
theorem idxOf?_take (bs : Bytes) (n : Nat) (b : UInt8) :
    (bs.take n).idxOf? b = (bs.idxOf? b).bind (Option.guard fun i => i < n) :=
  List.findIdx?_take

section

variable (hcapacity : a.capacity < memory) (hbuffer : a.buffer.length < memory)
  (hrest : rest.length < memory)
include hcapacity hrest

theorem reset_append_eq (hbs : bs.length ≤ rest.length) :
    (append a.reset bs : Run ε Assembler) = .ok (a.reset.append bs) :=
  append_eq hcapacity memory_pos (Nat.lt_of_le_of_lt hbs hrest)

include hbuffer

/-- What is behind the last end delimiter is taken in. -/
theorem takeIn_none :
    (takeIn a rest (rest.idxOf? start) none : Run ε Assembler) = .ok (a.takeIn rest) := by
  rw [Assembler.takeIn]
  cases hstart : rest.idxOf? start with
  | none => exact append_eq hcapacity hbuffer hrest
  | some s =>
    obtain ⟨hs, -, -⟩ := List.idxOf?_eq_some_iff.1 hstart
    rw [takeIn, sliceOf_length (Nat.le_of_lt hs), ok_bind]
    exact reset_append_eq hcapacity hrest (List.drop_sublist _ _).length_le

/-- What goes up to an end delimiter is taken in. -/
theorem takeIn_some {e : Nat} (hstop : rest.idxOf? stop = some e) :
    (takeIn a rest (rest.idxOf? start) (some e) : Run ε Assembler) =
      .ok (a.takeIn (rest.take (e + 1))) := by
  have hsizes : rest.length < sizes := Nat.lt_trans hrest (by decide)
  have hlen : (rest.take (e + 1)).length ≤ rest.length := (List.take_sublist _ _).length_le
  obtain ⟨he, hstopAt, -⟩ := List.idxOf?_eq_some_iff.1 hstop
  have hwhole : (sliceThrough rest 0 e : Run ε Bytes) = .ok (rest.take (e + 1)) :=
    sliceThrough_eq (Nat.zero_le _) he hsizes
  have happend : (append a (rest.take (e + 1)) : Run ε Assembler) =
      .ok (a.append (rest.take (e + 1))) :=
    append_eq hcapacity hbuffer (Nat.lt_of_le_of_lt hlen hrest)
  rw [Assembler.takeIn, idxOf?_take]
  cases hstart : rest.idxOf? start with
  | none =>
    rw [takeIn, hwhole, ok_bind]
    exact happend
  | some s =>
    obtain ⟨_, hstartAt, -⟩ := List.idxOf?_eq_some_iff.1 hstart
    rw [takeIn]
    by_cases hse : s < e
    · have hguard : (some s).bind (Option.guard fun i => i < e + 1) = some s := by
        simp [Option.guard]
        omega
      rw [if_pos hse, hguard, sliceThrough_eq (Nat.le_of_lt hse) he hsizes, ok_bind]
      exact reset_append_eq hcapacity hrest
        (Nat.le_trans (List.drop_sublist _ _).length_le hlen)
    · -- The place of an end delimiter is none of a start delimiter.
      have hne : s ≠ e := by
        rintro rfl
        exact absurd (hstartAt.symm.trans hstopAt) (by decide)
      have hguard : (some s).bind (Option.guard fun i => i < e + 1) = none := by
        simp [Option.guard]
        omega
      rw [if_neg hse, hguard, hwhole, ok_bind]
      exact happend

end

/-- A round of the definition. -/
theorem push_of_idxOf? {e : Nat} (hstop : rest.idxOf? stop = some e) :
    a.push rest =
      (((a.takeIn (rest.take (e + 1))).reset.push (rest.drop (e + 1))).1,
        (a.takeIn (rest.take (e + 1))).frame?.toList ++
          ((a.takeIn (rest.take (e + 1))).reset.push (rest.drop (e + 1))).2) := by
  rw [Assembler.push]
  split
  case h_1 hnone =>
    rw [hstop] at hnone
    cases hnone
  case h_2 e' hsome =>
    rw [hstop, Option.some.injEq] at hsome
    rw [← hsome]

/-- **A chunk is taken apart without a trap**, whatever it is and whatever frame is in progress:
the loop delivers the frames of the definition and counts them. -/
theorem push_eq {delivered : Nat} (hcapacity : a.capacity < memory)
    (hbuffer : a.buffer.length < memory) (hrest : rest.length < memory)
    (hdelivered : delivered + rest.length < sizes) :
    (push a delivered rest : Run ε _) =
      .ok ((a.push rest).1, (a.push rest).2, delivered + a.completed rest) := by
  fun_induction Assembler.completed a rest generalizing delivered with
  | case1 a rest hstop =>
    have hlast := Assembler.push_of_not_mem (a := a) (List.idxOf?_eq_none_iff.1 hstop)
    rw [push, hlast]
    simp only [hstop, takeIn_none hcapacity hbuffer hrest, ok_bind]
    rfl
  | case2 a rest e hstop full =>
    rename_i ih
    obtain ⟨he, -, -⟩ := List.idxOf?_eq_some_iff.1 hstop
    have htakeIn : (takeIn a rest (rest.idxOf? start) (some e) : Run ε Assembler) = .ok full :=
      takeIn_some hcapacity hbuffer hrest hstop
    have hcapacity' : full.reset.capacity < memory := by
      simpa [full, Assembler.reset] using hcapacity
    -- A round delivers at most one frame and takes at least one byte.
    have hone : full.frame?.isSome.toNat ≤ 1 := Bool.toNat_le _
    have hleft : (rest.drop (e + 1)).length + 1 ≤ rest.length := by
      rw [List.length_drop]
      omega
    have hcount : (addSize delivered full.frame?.isSome.toNat : Run ε Nat) =
        .ok (delivered + full.frame?.isSome.toNat) := addSize_eq (by omega)
    have hnext := @ih (delivered + full.frame?.isSome.toNat) hcapacity'
      memory_pos (by omega) (by omega)
    rw [push, push_of_idxOf? hstop]
    simp only [hstop, htakeIn, ok_bind, hcount]
    split
    case h_1 fault hfault =>
      rw [behind_eq he (by omega)] at hfault
      cases hfault
    case h_2 next hbehind =>
      rw [behind_eq he (by omega), Except.ok.injEq] at hbehind
      rw [← hbehind, hnext, ok_bind, Nat.add_assoc]
      rfl

end DomeLink.Machine
