import DomeLink.Bytes

/-!
# Frames out of a byte stream

Model of `FrameAssembler` (`assembler` in `plc-protocol`; specification, section 4.1): `push`,
`append`, `complete` and `reset`. Where it calls its handler once for each frame, `push` has the
frames as a result, in the order of the calls.

The line hands over chunks of bytes that respect no frame. The assembler keeps the bytes of the
frame in progress, `buffer`, which is empty or starts with `@`, and delivers a frame when its `*`
arrives. A start delimiter opens a new frame and drops the one in progress. A frame that would
outgrow the capacity is dropped whole, and `overflowed` remembers that its end is still to come.

`push` looks at a chunk up to its first `*` at a time: in that stretch the first `@`, if there is
one, opens the frame.

Out of scope: log lines, and the room set aside for the buffer.
-/

namespace DomeLink

/-- The receiving end of the line. -/
structure Assembler where
  /-- The greatest length of a frame. -/
  capacity : Nat
  /-- The frame in progress. -/
  buffer : Bytes := []
  /-- The frame in progress has outgrown the capacity. -/
  overflowed : Bool := false
  deriving DecidableEq, Repr

namespace Assembler

/-- The capacity that holds every frame with room to spare. -/
def defaultCapacity : Nat := 128

/-- A frame has been started and not ended. -/
def inProgress (a : Assembler) : Bool := !a.buffer.isEmpty

/-- Drops the frame in progress. -/
def reset (a : Assembler) : Assembler := { a with buffer := [], overflowed := false }

/-- Adds bytes to the frame in progress. Outside a frame only bytes that start one count. -/
def append (a : Assembler) (bs : Bytes) : Assembler :=
  if bs.isEmpty || a.overflowed then a
  else if a.buffer.isEmpty && bs.head? ≠ some Bytes.start then a
  else if a.buffer.length + bs.length > a.capacity then
    { a with buffer := [], overflowed := true }
  else { a with buffer := a.buffer ++ bs }

/-- The frame in progress, if it is one to deliver. -/
def frame? (a : Assembler) : Option Bytes :=
  if !a.overflowed && a.buffer.head? = some Bytes.start then some a.buffer else none

/-- Adds the bytes up to an end delimiter: a start delimiter among them opens a new frame. -/
def takeIn (a : Assembler) (bs : Bytes) : Assembler :=
  match bs.idxOf? Bytes.start with
  | some s => a.reset.append (bs.drop s)
  | none => a.append bs

/-- Takes in a chunk: the assembler after it and the frames that it completed, in stream order. -/
def push (a : Assembler) (chunk : Bytes) : Assembler × List Bytes :=
  match _h : chunk.idxOf? Bytes.stop with
  | none => (a.takeIn chunk, [])
  | some e =>
    let full := a.takeIn (chunk.take (e + 1))
    let (last, frames) := push full.reset (chunk.drop (e + 1))
    (last, full.frame?.toList ++ frames)
termination_by chunk.length
decreasing_by
  have : chunk ≠ [] := by rintro rfl; simp at _h
  have : 0 < chunk.length := List.length_pos_iff.2 this
  rw [List.length_drop]
  omega

/-- The number of frames that a chunk completes, as `push` counts them. -/
def completed (a : Assembler) (chunk : Bytes) : Nat :=
  match _h : chunk.idxOf? Bytes.stop with
  | none => 0
  | some e =>
    let full := a.takeIn (chunk.take (e + 1))
    full.frame?.isSome.toNat + completed full.reset (chunk.drop (e + 1))
termination_by chunk.length
decreasing_by
  have : chunk ≠ [] := by rintro rfl; simp at _h
  have : 0 < chunk.length := List.length_pos_iff.2 this
  rw [List.length_drop]
  omega

end Assembler

end DomeLink
