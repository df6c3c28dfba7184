import DomeLink.Wire.Assembler

/-!
# What the assembler delivers

A stream falls into stretches: each goes up to a `*` and includes it, and the last one has none. The
assembler takes in one stretch after the other (`push_of_not_mem`, `push_append_stop`), and the
first `@` of a stretch opens a frame (`takeIn_of_not_mem`, `takeIn_append_start`).

`pushAll` takes in a stream that arrives in chunks. Whatever the stream and the chunks are, the
frames are disjoint slices of the stream in its order (`Slices`), each from an `@` up to the next
`*` (`IsFrame`) and within the capacity: `pushAll_splits`.
-/

namespace DomeLink

open Bytes (start stop)

/-- What holds of bytes without `*`, and of a stretch up to a `*` with what follows it if it holds
of what follows, holds of all bytes. -/
theorem Bytes.stretch_induction {P : Bytes → Prop} (last : ∀ bs : Bytes, stop ∉ bs → P bs)
    (stretch : ∀ pre post : Bytes, stop ∉ pre → P post → P (pre ++ stop :: post)) (bs : Bytes) :
    P bs := by
  by_cases h : stop ∈ bs
  · obtain ⟨pre, post, hbs, hpre⟩ := List.eq_append_cons_of_mem h
    rw [hbs]
    exact stretch pre post hpre (stretch_induction last stretch post)
  · exact last bs h
termination_by bs.length
decreasing_by
  rw [hbs, List.length_append, List.length_cons]
  omega

/-- The first place of a byte is where the bytes before it end. -/
theorem Bytes.idxOf?_append_cons {b : UInt8} {pre : Bytes} (h : b ∉ pre) (post : Bytes) :
    (pre ++ b :: post).idxOf? b = some pre.length := by
  rw [List.idxOf?_eq_some_iff]
  refine ⟨by simp, by simp, fun j hj => ?_⟩
  rw [List.getElem_append_left hj]
  exact fun hb => h (hb ▸ List.getElem_mem hj)

namespace Assembler

variable {a : Assembler} {bs xs ys pre post past : Bytes}

/-! ## Stretches -/

theorem takeIn_of_not_mem (h : start ∉ bs) : a.takeIn bs = a.append bs := by
  unfold takeIn
  rw [List.idxOf?_eq_none_iff.2 h]

theorem takeIn_append_start (h : start ∉ pre) (post : Bytes) :
    a.takeIn (pre ++ start :: post) = a.reset.append (start :: post) := by
  unfold takeIn
  rw [Bytes.idxOf?_append_cons h]
  show a.reset.append ((pre ++ start :: post).drop pre.length) = _
  rw [List.drop_left]

theorem push_of_not_mem (h : stop ∉ bs) : a.push bs = (a.takeIn bs, []) := by
  rw [push]
  split
  · rfl
  · rename_i e he
    rw [List.idxOf?_eq_none_iff.2 h] at he
    cases he

theorem push_append_stop (h : stop ∉ pre) (post : Bytes) :
    a.push (pre ++ stop :: post) =
      (((a.takeIn (pre ++ [stop])).reset.push post).1,
        (a.takeIn (pre ++ [stop])).frame?.toList ++
          ((a.takeIn (pre ++ [stop])).reset.push post).2) := by
  have htake : (pre ++ stop :: post).take (pre.length + 1) = pre ++ [stop] := by
    rw [List.append_cons, List.take_left' (by simp)]
  have hdrop : (pre ++ stop :: post).drop (pre.length + 1) = post := by
    rw [List.append_cons, List.drop_left' (by simp)]
  rw [push]
  split
  · rename_i he
    rw [Bytes.idxOf?_append_cons h] at he
    cases he
  · rename_i e he
    rw [Bytes.idxOf?_append_cons h] at he
    cases he
    rw [htake, hdrop]

/-! ## The frame in progress -/

/-- **The frame in progress** starts with `@` and fits; of a dropped one nothing is kept. -/
structure WellFormed (a : Assembler) : Prop where
  opened : a.buffer ≠ [] → a.buffer.head? = some start
  fits : a.buffer.length ≤ a.capacity
  dropped : a.overflowed = true → a.buffer = []

theorem wellFormed_fresh (capacity : Nat) : WellFormed { capacity } where
  opened := fun h => absurd rfl h
  fits := Nat.zero_le _
  dropped := fun _ => rfl

theorem wellFormed_reset (a : Assembler) : a.reset.WellFormed where
  opened := fun h => absurd rfl h
  fits := Nat.zero_le _
  dropped := fun _ => rfl

/-- **What bytes come to**: they are ignored, or the frame outgrows the capacity, or they go on with
the frame in progress. -/
theorem append_cases (h : a.WellFormed) (bs : Bytes) :
    a.append bs = a ∧ (bs = [] ∨ a.buffer = []) ∨
      a.append bs = { a with buffer := [], overflowed := true } ∨
      a.append bs = { a with buffer := a.buffer ++ bs } ∧ a.overflowed = false ∧
        (a.buffer ++ bs).head? = some start ∧ (a.buffer ++ bs).length ≤ a.capacity := by
  unfold append
  split
  · rename_i hskip
    rw [Bool.or_eq_true, List.isEmpty_iff] at hskip
    exact .inl ⟨rfl, hskip.imp_right h.dropped⟩
  · rename_i hskip
    rw [Bool.or_eq_true, not_or, List.isEmpty_iff, Bool.not_eq_true] at hskip
    split
    · rename_i hout
      rw [Bool.and_eq_true, List.isEmpty_iff] at hout
      exact .inl ⟨rfl, .inr hout.1⟩
    · rename_i hin
      split
      · exact .inr (.inl rfl)
      · rename_i hfits
        refine .inr (.inr ⟨rfl, hskip.2, ?_, ?_⟩)
        · by_cases hb : a.buffer = []
          · simpa [hb] using hin
          · rw [List.head?_append, h.opened hb]
            rfl
        · rw [List.length_append]
          omega

theorem wellFormed_append (h : a.WellFormed) (bs : Bytes) : (a.append bs).WellFormed := by
  rcases append_cases h bs with ⟨heq, -⟩ | heq | ⟨heq, hover, hopen, hfits⟩
  · rw [heq]
    exact h
  · rw [heq]
    exact ⟨fun hne => absurd rfl hne, Nat.zero_le _, fun _ => rfl⟩
  · rw [heq]
    exact ⟨fun _ => hopen, hfits, fun ho => absurd (hover.symm.trans ho) Bool.false_ne_true⟩

theorem wellFormed_takeIn (h : a.WellFormed) (bs : Bytes) : (a.takeIn bs).WellFormed := by
  unfold takeIn
  split
  · exact wellFormed_append (wellFormed_reset a) _
  · exact wellFormed_append h bs

theorem wellFormed_push (h : a.WellFormed) (chunk : Bytes) : (a.push chunk).1.WellFormed := by
  induction chunk using Bytes.stretch_induction generalizing a with
  | last bs hbs =>
    rw [push_of_not_mem hbs]
    exact wellFormed_takeIn h bs
  | stretch pre post hpre ih =>
    rw [push_append_stop hpre]
    exact ih (wellFormed_reset _)

@[simp] theorem capacity_append (a : Assembler) (bs : Bytes) :
    (a.append bs).capacity = a.capacity := by
  unfold append
  split
  · rfl
  · split
    · rfl
    · split <;> rfl

@[simp] theorem capacity_takeIn (a : Assembler) (bs : Bytes) :
    (a.takeIn bs).capacity = a.capacity := by
  unfold takeIn
  split <;> simp [reset]

@[simp] theorem capacity_push (a : Assembler) (chunk : Bytes) :
    (a.push chunk).1.capacity = a.capacity := by
  induction chunk using Bytes.stretch_induction generalizing a with
  | last bs h => rw [push_of_not_mem h, capacity_takeIn]
  | stretch pre post h ih =>
    rw [push_append_stop h, ih]
    simp [reset]

/-- The frame in progress ends where the bytes so far end. -/
theorem suffix_append (h : a.WellFormed) (hs : a.buffer <:+ past) (bs : Bytes) :
    (a.append bs).buffer <:+ past ++ bs := by
  rcases append_cases h bs with ⟨heq, rfl | hnil⟩ | heq | ⟨heq, -⟩
  · rw [heq, List.append_nil]
    exact hs
  · rw [heq, hnil]
    exact List.nil_suffix
  · rw [heq]
    exact List.nil_suffix
  · rw [heq]
    exact (List.suffix_append_self_iff ..).2 hs

theorem suffix_takeIn (h : a.WellFormed) (hs : a.buffer <:+ past) (bs : Bytes) :
    (a.takeIn bs).buffer <:+ past ++ bs := by
  by_cases hmem : start ∈ bs
  · obtain ⟨pre, post, rfl, hpre⟩ := List.eq_append_cons_of_mem hmem
    rw [takeIn_append_start hpre, ← List.append_assoc]
    exact (suffix_append (wellFormed_reset a) List.nil_suffix _)
  · rw [takeIn_of_not_mem hmem]
    exact suffix_append h hs bs

/-! ## Frames -/

/-- **A frame**: it starts with `@`, and `*` is its last byte and no other. -/
structure IsFrame (frame : Bytes) : Prop where
  opened : frame.head? = some start
  closed : ∃ body, frame = body ++ [stop] ∧ stop ∉ body

/-- The frames are disjoint slices of the bytes, in their order. -/
inductive Slices : List Bytes → Bytes → Prop
  | nil (bs : Bytes) : Slices [] bs
  | cons (gap : Bytes) {frame : Bytes} {frames : List Bytes} {bs : Bytes} (h : Slices frames bs) :
      Slices (frame :: frames) (gap ++ frame ++ bs)

theorem Slices.prepend {frames : List Bytes} {bs : Bytes} (h : Slices frames bs) (gap : Bytes) :
    Slices frames (gap ++ bs) := by
  cases h with
  | nil => exact .nil _
  | cons gap' h =>
    rw [← List.append_assoc, ← List.append_assoc]
    exact .cons _ h

theorem Slices.append {frames frames' : List Bytes} {bs bs' : Bytes} (h : Slices frames bs)
    (h' : Slices frames' bs') : Slices (frames ++ frames') (bs ++ bs') := by
  induction h with
  | nil bs => exact h'.prepend bs
  | cons gap _ ih =>
    rw [List.append_assoc _ _ bs']
    exact .cons gap ih

theorem Slices.infix_of_mem {frames : List Bytes} {bs frame : Bytes} (h : Slices frames bs)
    (hf : frame ∈ frames) : frame <:+: bs := by
  induction h with
  | nil => cases hf
  | cons gap _ ih =>
    rcases List.mem_cons.1 hf with rfl | hf
    · exact ⟨gap, _, rfl⟩
    · exact (ih hf).trans (List.suffix_append _ _).isInfix

/-- The frame that the `*` at the end of a stretch completes. -/
theorem frame?_takeIn_stop {frame : Bytes} (h : a.WellFormed) (hs : a.buffer <:+ past)
    (hpast : stop ∉ past ++ pre) (hf : (a.takeIn (pre ++ [stop])).frame? = some frame) :
    frame <:+ past ++ pre ++ [stop] ∧ IsFrame frame ∧ frame.length ≤ a.capacity := by
  have hwf := wellFormed_takeIn h (pre ++ [stop])
  have hsuffix := suffix_takeIn h hs (pre ++ [stop])
  have hcap := hwf.fits
  unfold frame? at hf
  split at hf
  · rename_i hopen
    rw [Bool.and_eq_true, decide_eq_true_eq] at hopen
    cases hf
    rw [← List.append_assoc] at hsuffix
    rw [capacity_takeIn] at hcap
    refine ⟨hsuffix, ⟨hopen.2, ?_⟩, hcap⟩
    rcases List.suffix_concat_iff.1 hsuffix with hnil | ⟨body, hbody, hmem⟩
    · rw [hnil] at hopen
      cases hopen.2
    · exact ⟨body, hbody, fun hstop => hpast (hmem.subset hstop)⟩
  · cases hf

/-! ## Streams -/

/-- Takes in chunks one after the other. -/
def pushAll (a : Assembler) : List Bytes → Assembler × List Bytes
  | [] => (a, [])
  | chunk :: chunks =>
    (((a.push chunk).1.pushAll chunks).1, (a.push chunk).2 ++ ((a.push chunk).1.pushAll chunks).2)

theorem pushAll_append (a : Assembler) (xs ys : List Bytes) :
    a.pushAll (xs ++ ys) =
      (((a.pushAll xs).1.pushAll ys).1, (a.pushAll xs).2 ++ ((a.pushAll xs).1.pushAll ys).2) := by
  induction xs generalizing a with
  | nil => rfl
  | cons x xs ih => simp only [List.cons_append, pushAll, ih, List.append_assoc]

theorem capacity_pushAll (a : Assembler) (chunks : List Bytes) :
    (a.pushAll chunks).1.capacity = a.capacity := by
  induction chunks generalizing a with
  | nil => rfl
  | cons chunk chunks ih => rw [pushAll, ih, capacity_push]

theorem wellFormed_pushAll (h : a.WellFormed) (chunks : List Bytes) :
    (a.pushAll chunks).1.WellFormed := by
  induction chunks generalizing a with
  | nil => exact h
  | cons chunk chunks ih => exact ih (wellFormed_push h chunk)

/-- **What a stream comes to**: the frames are slices of the bytes that are done with, each is a
frame within the capacity, and the frame in progress ends where the stream ends. -/
structure Splits (a : Assembler) (stream : Bytes) (r : Assembler × List Bytes) (rest : Bytes) :
    Prop where
  slices : ∃ done, stream = done ++ rest ∧ Slices r.2 done
  frames : ∀ frame ∈ r.2, IsFrame frame ∧ frame.length ≤ a.capacity
  unfinished : stop ∉ rest
  suffix : r.1.buffer <:+ rest

/-- A stream that goes on splits as its two parts do. -/
theorem Splits.append {a' : Assembler} {stream rest more rest' : Bytes} {frames : List Bytes}
    {r : Assembler × List Bytes} (hsplits : Splits a stream (a', frames) rest)
    (hcap : a'.capacity = a.capacity) (hmore : Splits a' (rest ++ more) r rest') :
    Splits a (stream ++ more) (r.1, frames ++ r.2) rest' := by
  obtain ⟨done, hdone, hslices⟩ := hsplits.slices
  obtain ⟨done', hdone', hslices'⟩ := hmore.slices
  refine ⟨⟨done ++ done', ?_, hslices.append hslices'⟩, ?_, hmore.unfinished, hmore.suffix⟩
  · rw [hdone, List.append_assoc, hdone', List.append_assoc]
  · intro frame hframe
    rcases List.mem_append.1 hframe with hframe | hframe
    · exact hsplits.frames frame hframe
    · rw [← hcap]
      exact hmore.frames frame hframe

theorem push_splits (h : a.WellFormed) (hs : a.buffer <:+ past) (hpast : stop ∉ past)
    (chunk : Bytes) : ∃ rest, Splits a (past ++ chunk) (a.push chunk) rest := by
  induction chunk using Bytes.stretch_induction generalizing a past with
  | last bs hbs =>
    rw [push_of_not_mem hbs]
    exact ⟨past ++ bs, ⟨[], rfl, .nil _⟩, nofun, by simp [hpast, hbs], suffix_takeIn h hs bs⟩
  | stretch pre post hpre ih =>
    obtain ⟨rest, hrest⟩ := ih (wellFormed_reset (a.takeIn (pre ++ [stop]))) List.nil_suffix
      (List.not_mem_nil (a := stop))
    obtain ⟨done, hdone, hslices⟩ := hrest.slices
    have hframe : ∀ frame ∈ (a.takeIn (pre ++ [stop])).frame?.toList,
        frame <:+ past ++ pre ++ [stop] ∧ IsFrame frame ∧ frame.length ≤ a.capacity :=
      fun frame hf => frame?_takeIn_stop h hs (by simp [hpast, hpre]) (Option.mem_toList.1 hf)
    rw [push_append_stop hpre]
    refine ⟨rest, ⟨past ++ pre ++ [stop] ++ done, ?_, ?_⟩, ?_, hrest.unfinished, hrest.suffix⟩
    · simp only [List.nil_append] at hdone
      simp [hdone]
    · refine Slices.append ?_ hslices
      cases hf : (a.takeIn (pre ++ [stop])).frame? with
      | none => exact .nil _
      | some frame =>
        obtain ⟨gap, hgap⟩ := (hframe frame (by rw [hf]; exact List.mem_singleton_self _)).1
        rw [← hgap, ← List.append_nil (gap ++ frame)]
        exact .cons gap (.nil [])
    · intro frame hf
      rcases List.mem_append.1 hf with hf | hf
      · exact (hframe frame hf).2
      · simpa [reset] using hrest.frames frame hf

/-- **Frames are slices of the stream**, however it arrives. -/
theorem pushAll_splits (h : a.WellFormed) (hs : a.buffer <:+ past) (hpast : stop ∉ past)
    (chunks : List Bytes) : ∃ rest, Splits a (past ++ chunks.flatten) (a.pushAll chunks) rest := by
  induction chunks generalizing a past with
  | nil =>
    rw [List.flatten_nil, List.append_nil]
    exact ⟨past, ⟨[], rfl, .nil _⟩, nofun, hpast, hs⟩
  | cons chunk chunks ih =>
    obtain ⟨rest, hrest⟩ := push_splits h hs hpast chunk
    obtain ⟨rest', hrest'⟩ := ih (wellFormed_push h chunk) hrest.suffix hrest.unfinished
    rw [List.flatten_cons, ← List.append_assoc]
    exact ⟨rest', hrest.append (capacity_push a chunk) hrest'⟩

/-- A frame that a fresh assembler delivers is a slice of the stream. -/
theorem isFrame_of_mem_pushAll {capacity : Nat} {chunks : List Bytes} {frame : Bytes}
    (h : frame ∈ (pushAll { capacity } chunks).2) : IsFrame frame ∧ frame <:+: chunks.flatten := by
  obtain ⟨rest, hrest⟩ := pushAll_splits (wellFormed_fresh capacity) List.nil_suffix
    (List.not_mem_nil (a := stop)) chunks
  obtain ⟨done, hdone, hslices⟩ := hrest.slices
  refine ⟨(hrest.frames frame h).1, ?_⟩
  rw [List.nil_append] at hdone
  rw [hdone]
  exact (hslices.infix_of_mem h).trans (List.prefix_append _ _).isInfix

end Assembler

end DomeLink
