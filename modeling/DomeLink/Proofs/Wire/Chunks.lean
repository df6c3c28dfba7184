import DomeLink.Proofs.Outcome
import DomeLink.Proofs.Wire.Assembler

/-!
# Frames and the cutting of the stream

`takeByte` says what one byte does, and `scan` lets bytes come one by one. `push` looks at a whole
stretch for its first `@`, so it does the same as `scan` exactly as long as no second `@` follows
before a `*`: that is `Separated`.

* `push_eq_scan`: a separated chunk is taken in as its bytes are one by one.
* `pushAll_eq_of_flatten_eq`: however a stream is cut into separated chunks, its frames are the
  same.
* `frames_of_double_start`: with two `@` before a `*` they are not. In one chunk the frame starts at
  the first `@`; with a cut between the two it starts at the second.
-/

namespace DomeLink.Assembler

open Bytes (start stop)

variable {a : Assembler} {bs xs ys pre post : Bytes} {b : UInt8}

/-! ## One byte at a time -/

/-- Goes on with the frame in progress; a frame that outgrows the capacity is dropped. -/
def extend (a : Assembler) (b : UInt8) : Assembler :=
  if a.buffer.length < a.capacity then { a with buffer := a.buffer ++ [b] }
  else { a with buffer := [], overflowed := true }

/-- Takes in one byte: `@` opens a frame and drops the one in progress, `*` ends the frame in
progress, which is delivered if it fits, and any other byte belongs to the frame in progress, if
there is one. -/
def takeByte (a : Assembler) (b : UInt8) : Assembler × List Bytes :=
  if b = start then (a.reset.extend b, [])
  else if b = stop then
    (a.reset, if a.inProgress ∧ a.buffer.length < a.capacity then [a.buffer ++ [b]] else [])
  else if a.inProgress then (a.extend b, [])
  else (a, [])

/-- Takes in bytes one by one. -/
def scan (a : Assembler) : Bytes → Assembler × List Bytes
  | [] => (a, [])
  | b :: bs => (((a.takeByte b).1.scan bs).1, (a.takeByte b).2 ++ ((a.takeByte b).1.scan bs).2)

theorem scan_append (a : Assembler) (xs ys : Bytes) :
    a.scan (xs ++ ys) =
      (((a.scan xs).1.scan ys).1, (a.scan xs).2 ++ ((a.scan xs).1.scan ys).2) := by
  induction xs generalizing a with
  | nil => rfl
  | cons x xs ih => simp [scan, ih]

/-! ## Stretches one byte at a time -/

theorem reset_append (a : Assembler) (bs : Bytes) : (a.append bs).reset = a.reset := by
  simp only [reset, capacity_append]

/-- Bytes of a dropped frame, and bytes outside a frame that open none, are ignored. -/
theorem append_of_outside (h : a.overflowed = true ∨ a.buffer = [] ∧ bs.head? ≠ some start) :
    a.append bs = a := by
  unfold append
  rcases h with hover | ⟨hnil, hhead⟩
  · rw [if_pos (by simp [hover])]
  · split
    · rfl
    · rw [if_pos (by simp [hnil, hhead])]

/-- Bytes of a frame go on with it as long as it fits. -/
theorem append_of_inside (h : a.WellFormed) (hover : a.overflowed = false)
    (hin : (a.buffer ++ bs).head? = some start) :
    a.append bs =
      if a.buffer.length + bs.length ≤ a.capacity then { a with buffer := a.buffer ++ bs }
      else { a with buffer := [], overflowed := true } := by
  by_cases hbs : bs = []
  · subst hbs
    rw [if_pos (by simpa using h.fits), List.append_nil]
    rfl
  · have hskip : ¬ (a.buffer = [] ∧ bs.head? ≠ some start) := by
      rintro ⟨hnil, hhead⟩
      rw [hnil, List.nil_append] at hin
      exact hhead hin
    unfold append
    rw [if_neg (by simp [hbs, hover]), if_neg (by simpa using hskip), ← ite_not]
    simp only [gt_iff_lt, Nat.not_lt]

/-- Bytes that belong to no frame come to an assembler with none in progress. -/
theorem outside_of_not_inside (h : a.WellFormed) (hin : (a.buffer ++ bs).head? ≠ some start) :
    a.buffer = [] ∧ bs.head? ≠ some start := by
  by_cases hnil : a.buffer = []
  · rw [hnil, List.nil_append] at hin
    exact ⟨hnil, hin⟩
  · rw [List.head?_append, h.opened hnil] at hin
    exact absurd rfl hin

/-- Bytes can be taken in in two parts, if the second has no `@`. -/
theorem append_append (h : a.WellFormed) (xs : Bytes) (hys : start ∉ ys) :
    a.append (xs ++ ys) = (a.append xs).append ys := by
  have hhead : ys.head? ≠ some start := fun hs => hys (List.mem_of_head? hs)
  cases hover : a.overflowed with
  | true =>
    rw [append_of_outside (.inl hover), append_of_outside (.inl hover),
      append_of_outside (.inl hover)]
  | false =>
    by_cases hin : (a.buffer ++ xs).head? = some start
    · have hin' : (a.buffer ++ (xs ++ ys)).head? = some start := by
        rw [← List.append_assoc, List.head?_append, hin]
        rfl
      rw [append_of_inside h hover hin', append_of_inside h hover hin, List.length_append]
      by_cases hfits : a.buffer.length + xs.length ≤ a.capacity
      · have hwf := wellFormed_append h xs
        rw [append_of_inside h hover hin, if_pos hfits] at hwf
        rw [if_pos hfits, append_of_inside hwf hover (by rwa [← List.append_assoc] at hin')]
        simp only [List.length_append, List.append_assoc, Nat.add_assoc]
      · rw [if_neg hfits, if_neg (by omega), append_of_outside (.inl rfl)]
    · obtain ⟨hnil, hxs⟩ := outside_of_not_inside h hin
      rw [append_of_outside (.inr ⟨hnil, hxs⟩), append_of_outside (.inr ⟨hnil, hhead⟩)]
      rcases xs with _ | ⟨x, xs⟩
      · exact append_of_outside (.inr ⟨hnil, hhead⟩)
      · exact append_of_outside (.inr ⟨hnil, hxs⟩)

/-- A byte after those of the frame in progress. -/
theorem append_singleton (h : a.WellFormed) (hb : b ≠ start) :
    a.append [b] = if a.inProgress then a.extend b else a := by
  have hhead : [b].head? ≠ some start := fun hs => hb (Option.some.inj hs)
  by_cases hnil : a.buffer = []
  · rw [append_of_outside (.inr ⟨hnil, hhead⟩)]
    simp [inProgress, hnil]
  · have hover : a.overflowed = false := Bool.eq_false_iff.2 fun ho => hnil (h.dropped ho)
    have hin : (a.buffer ++ [b]).head? = some start := by
      rw [List.head?_append, h.opened hnil]
      rfl
    have hprogress : a.inProgress = true := by simpa [inProgress] using hnil
    rw [append_of_inside h hover hin, if_pos hprogress]
    rfl

theorem takeByte_start (a : Assembler) : a.takeByte start = (a.reset.append [start], []) := by
  rw [takeByte, if_pos rfl, append_of_inside (wellFormed_reset a) rfl rfl]
  rfl

theorem takeByte_plain (h : a.WellFormed) (hstart : b ≠ start) (hstop : b ≠ stop) :
    a.takeByte b = (a.append [b], []) := by
  rw [append_singleton h hstart, takeByte, if_neg hstart, if_neg hstop]
  split <;> rfl

theorem takeByte_stop (h : a.WellFormed) :
    a.takeByte stop = ((a.append [stop]).reset, (a.append [stop]).frame?.toList) := by
  have hne : stop ≠ start := by decide
  rw [reset_append, append_singleton h hne, takeByte, if_neg hne, if_pos rfl]
  by_cases hnil : a.buffer = []
  · simp [inProgress, frame?, hnil]
  · have hover : a.overflowed = false := Bool.eq_false_iff.2 fun ho => hnil (h.dropped ho)
    by_cases hfits : a.buffer.length < a.capacity
    · simp [inProgress, frame?, hnil, hover, extend, hfits, h.opened hnil]
    · simp [inProgress, frame?, hnil, extend, hfits]

/-- Bytes that are no delimiters go on with the frame in progress. -/
theorem scan_plain (h : a.WellFormed) (hstart : start ∉ bs) (hstop : stop ∉ bs) :
    a.scan bs = (a.append bs, []) := by
  induction bs generalizing a with
  | nil => rfl
  | cons b bs ih =>
    rw [List.mem_cons, not_or] at hstart hstop
    rw [scan, takeByte_plain h (Ne.symm hstart.1) (Ne.symm hstop.1),
      ih (wellFormed_append h [b]) hstart.2 hstop.2, ← append_append h [b] hstart.2]
    rfl

/-! ## Separated chunks -/

/-- Between any two `@` there is a `*`. -/
def Separated (bs : Bytes) : Prop :=
  ∀ xs ys zs, bs = xs ++ start :: ys ++ start :: zs → stop ∈ ys

theorem Separated.of_append_right {xs ys : Bytes} (h : Separated (xs ++ ys)) : Separated ys := by
  rintro us vs ws rfl
  exact h (xs ++ us) vs ws (by simp)

theorem Separated.of_append_left {xs ys : Bytes} (h : Separated (xs ++ ys)) : Separated xs := by
  rintro us vs ws rfl
  exact h us vs (ws ++ ys) (by simp)

/-- Bytes with one `@` at most are separated. -/
theorem separated_of_count_le (h : bs.count start ≤ 1) : Separated bs := by
  rintro xs ys zs rfl
  simp only [List.count_append, List.count_cons_self] at h
  omega

/-- A stretch without `*` that is separated has one `@` at most. -/
theorem Separated.not_mem (h : Separated (pre ++ start :: post)) (hstop : stop ∉ post) :
    start ∉ post := by
  intro hmem
  obtain ⟨us, vs, rfl⟩ := List.append_of_mem hmem
  exact hstop (List.mem_append_left _ (h pre us vs (by simp)))

theorem takeIn_append_stop (h : a.WellFormed) (bs : Bytes) :
    a.takeIn (bs ++ [stop]) = (a.takeIn bs).append [stop] := by
  have hstop : start ∉ [stop] := by decide
  by_cases hmem : start ∈ bs
  · obtain ⟨pre, post, rfl, hpre⟩ := List.eq_append_cons_of_mem hmem
    rw [takeIn_append_start hpre, List.append_assoc, List.cons_append, takeIn_append_start hpre,
      ← List.cons_append, append_append (wellFormed_reset a) _ hstop]
  · rw [takeIn_of_not_mem hmem, takeIn_of_not_mem (by simp [hmem, hstop]),
      append_append h _ hstop]

/-- A separated stretch without `*` is taken in as its bytes are one by one. -/
theorem takeIn_eq_scan (h : a.WellFormed) (hs : Separated bs) (hstop : stop ∉ bs) :
    a.scan bs = (a.takeIn bs, []) := by
  by_cases hmem : start ∈ bs
  · obtain ⟨pre, post, rfl, hpre⟩ := List.eq_append_cons_of_mem hmem
    rw [List.mem_append, not_or, List.mem_cons, not_or] at hstop
    have hpost := hs.not_mem hstop.2.2
    have hwf := wellFormed_append (wellFormed_reset a) [start]
    rw [takeIn_append_start hpre, scan_append, scan_plain h hpre hstop.1, scan, takeByte_start,
      reset_append, scan_plain hwf hpost hstop.2.2, ← append_append (wellFormed_reset a) _ hpost]
    rfl
  · rw [takeIn_of_not_mem hmem, scan_plain h hmem hstop]

/-- **A separated chunk is taken in as its bytes are one by one.** -/
theorem push_eq_scan (h : a.WellFormed) {chunk : Bytes} (hs : Separated chunk) :
    a.push chunk = a.scan chunk := by
  induction chunk using Bytes.stretch_induction generalizing a with
  | last bs hbs => rw [push_of_not_mem hbs, takeIn_eq_scan h hs hbs]
  | stretch pre post hpre ih =>
    have hpost : Separated post := by
      rw [List.append_cons] at hs
      exact hs.of_append_right
    rw [push_append_stop hpre, scan_append, takeIn_eq_scan h hs.of_append_left hpre, scan,
      takeByte_stop (wellFormed_takeIn h pre), takeIn_append_stop h, reset_append,
      ih (wellFormed_reset _) hpost]
    rfl

theorem pushAll_eq_scan (h : a.WellFormed) {chunks : List Bytes}
    (hs : ∀ chunk ∈ chunks, Separated chunk) : a.pushAll chunks = a.scan chunks.flatten := by
  induction chunks generalizing a with
  | nil => rfl
  | cons chunk chunks ih =>
    have hchunk := push_eq_scan h (hs chunk List.mem_cons_self)
    have hrest := ih (wellFormed_push h chunk) fun c hc => hs c (List.mem_cons_of_mem chunk hc)
    rw [pushAll, hrest, hchunk, List.flatten_cons, scan_append]

/-- **However a stream is cut** into separated chunks, a fresh assembler delivers the same frames
and is left with the same frame in progress. -/
theorem pushAll_eq_of_flatten_eq (capacity : Nat) {chunks chunks' : List Bytes}
    (hflatten : chunks.flatten = chunks'.flatten) (hs : ∀ chunk ∈ chunks, Separated chunk)
    (hs' : ∀ chunk ∈ chunks', Separated chunk) :
    pushAll { capacity } chunks = pushAll { capacity } chunks' := by
  rw [pushAll_eq_scan (wellFormed_fresh capacity) hs,
    pushAll_eq_scan (wellFormed_fresh capacity) hs', hflatten]

/-- A stream with noise, and with a frame that has lost its end, cut in two ways. -/
theorem pushAll_eq_of_lost_end :
    let chunks := [Bytes.ascii ['\r', '@', '0', 'W'], Bytes.ascii ['@', '1'],
      Bytes.ascii ['2', '*', '*', '@']]
    let chunks' := [Bytes.ascii ['\r', '@'], Bytes.ascii ['0', 'W'],
      Bytes.ascii ['@', '1', '2', '*'], Bytes.ascii ['*', '@']]
    chunks.flatten = chunks'.flatten ∧ (∀ chunk ∈ chunks, Separated chunk) ∧
      (∀ chunk ∈ chunks', Separated chunk) ∧
        pushAll { capacity := 78 } chunks = pushAll { capacity := 78 } chunks' := by
  intro chunks chunks'
  have hs : ∀ chunk ∈ chunks, chunk.count start ≤ 1 := by decide
  have hs' : ∀ chunk ∈ chunks', chunk.count start ≤ 1 := by decide
  have hsep := fun chunk hc => separated_of_count_le (hs chunk hc)
  have hsep' := fun chunk hc => separated_of_count_le (hs' chunk hc)
  exact ⟨rfl, hsep, hsep', pushAll_eq_of_flatten_eq 78 rfl hsep hsep'⟩

/-- Two `@` before a `*`: the frame starts at the first of them if both come in one chunk, and at
the second if the stream is cut between them. -/
theorem frames_of_double_start :
    (pushAll { capacity := 128 } [Bytes.ascii ['@', '0', '0', '@', '0', '1', '*']]).2 =
        [Bytes.ascii ['@', '0', '0', '@', '0', '1', '*']] ∧
      (pushAll { capacity := 128 }
          [Bytes.ascii ['@', '0', '0'], Bytes.ascii ['@', '0', '1', '*']]).2 =
        [Bytes.ascii ['@', '0', '1', '*']] := by
  decide +kernel

end DomeLink.Assembler
