import DomeLink.Proofs.Wire.Assembler

/-!
# Histories of an assembler

An assembler takes in chunks and is reset now and then. Resets cut the bytes that it has been given
into sections. A `History` keeps, besides the assembler, the bytes of each section and the frames
that were delivered while it lasted.

Whatever the bytes and wherever the resets, the frames of a section are disjoint slices of its
bytes, in their order, and what is in progress is the end of the last section:
`faithful_history`. So nothing is cut short, spliced, repeated or put into another order, and no
frame goes on beyond a reset.
-/

namespace DomeLink.Assembler

open Bytes (start stop)

/-- What can be done to an assembler. -/
inductive Input
  /-- It takes in a chunk. -/
  | chunk (bytes : Bytes)
  | reset

/-- What comes between one reset and the next. -/
structure Section where
  /-- The bytes that have been given to the assembler. -/
  bytes : Bytes := []
  /-- The frames that it has delivered. -/
  frames : List Bytes := []

/-- An assembler and what has been done to it. -/
structure History where
  assembler : Assembler
  /-- The sections that a reset has ended. -/
  ended : List Section := []
  /-- The section since the last reset. -/
  current : Section := {}

/-- One more thing is done to the assembler. -/
def History.feed (h : History) : Input → History
  | .chunk bytes =>
    { h with
      assembler := (h.assembler.push bytes).1
      current :=
        { bytes := h.current.bytes ++ bytes
          frames := h.current.frames ++ (h.assembler.push bytes).2 } }
  | .reset => { assembler := h.assembler.reset, ended := h.ended ++ [h.current] }

/-- What becomes of a fresh assembler. -/
def history (capacity : Nat) (inputs : List Input) : History :=
  inputs.foldl History.feed { assembler := { capacity } }

/-- All sections, in the order of the stream. -/
def History.sections (h : History) : List Section := h.ended ++ [h.current]

/-! ## Counting -/

/-- The number that `push` counts is that of the frames. -/
theorem completed_eq_length (a : Assembler) (chunk : Bytes) :
    a.completed chunk = (a.push chunk).2.length := by
  fun_induction completed a chunk with
  | case1 a chunk hnone => rw [push_of_not_mem (List.idxOf?_eq_none_iff.1 hnone)]; rfl
  | case2 a chunk e hsome full ih =>
    rw [push]
    split
    · rename_i hnone
      rw [hsome] at hnone
      cases hnone
    · rename_i e' hsome'
      rw [hsome] at hsome'
      cases hsome'
      rw [ih, List.length_append]
      cases full.frame? <;> simp [full]

/-! ## Sections -/

/-- The frames of the section are slices of its bytes, and each is a frame within the capacity. -/
structure Section.Faithful (capacity : Nat) (s : Section) : Prop where
  slices : Slices s.frames s.bytes
  frames : ∀ frame ∈ s.frames, IsFrame frame ∧ frame.length ≤ capacity

/-- What every history keeps: the section that goes on splits into what is done with and the rest,
and the sections before it are as they should be. -/
structure History.Sound (capacity : Nat) (h : History) : Prop where
  wellFormed : h.assembler.WellFormed
  bounded : h.assembler.capacity = capacity
  splits : ∃ rest, Splits h.assembler h.current.bytes (h.assembler, h.current.frames) rest
  ended : ∀ s ∈ h.ended, s.Faithful capacity

variable {capacity : Nat} {a : Assembler} {h : History}

theorem Splits.slices_all {stream rest : Bytes} {r : Assembler × List Bytes}
    (hsplits : Splits a stream r rest) : Slices r.2 stream := by
  obtain ⟨done, hdone, hslices⟩ := hsplits.slices
  rw [hdone, ← List.append_nil r.2]
  exact hslices.append (.nil rest)

theorem History.Sound.current (hsound : h.Sound capacity) : h.current.Faithful capacity := by
  obtain ⟨rest, hrest⟩ := hsound.splits
  refine ⟨hrest.slices_all, fun frame hframe => ?_⟩
  rw [← hsound.bounded]
  exact hrest.frames frame hframe

theorem sound_fresh (capacity : Nat) : History.Sound capacity { assembler := { capacity } } where
  wellFormed := wellFormed_fresh capacity
  bounded := rfl
  splits := ⟨[], ⟨[], rfl, .nil []⟩, nofun, List.not_mem_nil, List.suffix_rfl⟩
  ended := nofun

/-- **Whatever is done to an assembler** keeps its history sound. -/
theorem History.Sound.feed (hsound : h.Sound capacity) (i : Input) : (h.feed i).Sound capacity := by
  obtain ⟨rest, hrest⟩ := hsound.splits
  cases i with
  | chunk bytes =>
    obtain ⟨rest', hrest'⟩ :=
      push_splits hsound.wellFormed hrest.suffix hrest.unfinished bytes
    obtain ⟨hslices, hframes, hunfinished, hsuffix⟩ := hrest.append rfl hrest'
    have hcap : (h.assembler.push bytes).1.capacity = h.assembler.capacity :=
      capacity_push h.assembler bytes
    refine ⟨wellFormed_push hsound.wellFormed bytes, hcap.trans hsound.bounded, ⟨rest', ?_⟩,
      hsound.ended⟩
    refine ⟨hslices, fun frame hframe => ?_, hunfinished, hsuffix⟩
    show IsFrame frame ∧ frame.length ≤ (h.assembler.push bytes).1.capacity
    rw [hcap]
    exact hframes frame hframe
  | reset =>
    refine ⟨wellFormed_reset h.assembler, hsound.bounded,
      ⟨[], ⟨[], rfl, .nil []⟩, nofun, List.not_mem_nil, List.suffix_rfl⟩, fun s hs => ?_⟩
    rcases List.mem_append.1 hs with hs | hs
    · exact hsound.ended s hs
    · rw [List.mem_singleton.1 hs]
      exact hsound.current

theorem sound_history (capacity : Nat) (inputs : List Input) :
    (history capacity inputs).Sound capacity := by
  suffices hall : ∀ h : History, h.Sound capacity →
      (inputs.foldl History.feed h).Sound capacity from hall _ (sound_fresh capacity)
  induction inputs with
  | nil => exact fun h hsound => hsound
  | cons i is ih => exact fun h hsound => ih (h.feed i) (hsound.feed i)

/-! ## Every history -/

/-- **What an assembler makes of a stream** is faithful to the stream. -/
structure History.Faithful (capacity : Nat) (h : History) : Prop where
  /-- What is in progress is nothing, or the end of what has come since the last reset, from an `@`
  on; its `*` is still to come. -/
  inProgress : h.assembler.buffer = [] ∨
    h.assembler.buffer <:+ h.current.bytes ∧ h.assembler.buffer.head? = some start ∧
      stop ∉ h.assembler.buffer ∧ h.assembler.buffer.length ≤ capacity
  /-- Of a frame that has outgrown the capacity nothing is kept. -/
  dropped : h.assembler.overflowed = true → h.assembler.buffer = []
  /-- The frames of each section are disjoint slices of its bytes, in their order. -/
  slices : ∀ s ∈ h.sections, Slices s.frames s.bytes
  /-- Each frame starts with `@`, has `*` as its last byte and no other, and fits. -/
  frames : ∀ s ∈ h.sections, ∀ frame ∈ s.frames, IsFrame frame ∧ frame.length ≤ capacity
  /-- The frames of the next chunk are counted. -/
  counted : ∀ chunk, h.assembler.completed chunk = (h.assembler.push chunk).2.length

/-- **Nothing is cut short, spliced, repeated or put into another order**, whatever the stream and
wherever the resets. -/
theorem faithful_history (capacity : Nat) (inputs : List Input) :
    (history capacity inputs).Faithful capacity := by
  have hsound := sound_history capacity inputs
  generalize history capacity inputs = h at hsound ⊢
  have hsection : ∀ s ∈ h.sections, s.Faithful capacity := by
    intro s hs
    rcases List.mem_append.1 hs with hs | hs
    · exact hsound.ended s hs
    · rw [List.mem_singleton.1 hs]
      exact hsound.current
  constructor
  case inProgress =>
    by_cases hnil : h.assembler.buffer = []
    · exact .inl hnil
    · obtain ⟨rest, hrest⟩ := hsound.splits
      obtain ⟨done, hdone, -⟩ := hrest.slices
      have hsuffix : rest <:+ h.current.bytes := ⟨done, hdone.symm⟩
      have hfits := hsound.wellFormed.fits
      rw [hsound.bounded] at hfits
      exact .inr ⟨hrest.suffix.trans hsuffix, hsound.wellFormed.opened hnil,
        fun hmem => hrest.unfinished (hrest.suffix.subset hmem), hfits⟩
  case dropped => exact hsound.wellFormed.dropped
  case slices => exact fun s hs => (hsection s hs).slices
  case frames => exact fun s hs => (hsection s hs).frames
  case counted => exact completed_eq_length h.assembler

end DomeLink.Assembler
