import DomeLink.Proofs.Wire.Chunks
import DomeLink.Proofs.Wire.History

/-!
# The assembler as a reader of single bytes

`Progress` is what there is to know of the frame in progress, and `Progress.step` reads one byte: an
`@` opens a frame and drops the one in progress, a `*` closes the frame in progress, which is
delivered if it fits, any other byte goes on with the frame in progress, and a frame that outgrows
the capacity is dropped whole. There is no buffer to search and no flag to test.

Whatever has been done to an assembler, it is in one of these states (`Progress.assembler`), and a
separated chunk brings it where its bytes bring the reader, with the same frames: `reads_history`.
So a frame whose `@` starts a chunk is delivered whatever has come before it, and once.
-/

namespace DomeLink

open Bytes (start stop)

/-- What a reader of single bytes knows of the frame in progress. -/
inductive Progress
  /-- There is none. -/
  | outside
  /-- It has come to these bytes, `@` first. -/
  | inside (bytes : Bytes)
  /-- It has outgrown the capacity. -/
  | overlong
  deriving DecidableEq

namespace Progress

/-- The frame in progress has come to these bytes, if they fit. -/
def keep (capacity : Nat) (bytes : Bytes) : Progress :=
  if bytes.length ≤ capacity then inside bytes else overlong

/-- Reads one byte: what is in progress then, and the frame that it completes. -/
def step (capacity : Nat) (p : Progress) (b : UInt8) : Progress × Option Bytes :=
  if b = start then (keep capacity [start], none)
  else
    match p with
    | outside => (outside, none)
    | overlong => (if b = stop then outside else overlong, none)
    | inside bytes =>
      if b = stop then
        (outside, if bytes.length + 1 ≤ capacity then some (bytes ++ [stop]) else none)
      else (keep capacity (bytes ++ [b]), none)

/-- Reads bytes one by one: what is in progress at their end, and the frames in their order. -/
def run (capacity : Nat) (p : Progress) : Bytes → Progress × List Bytes
  | [] => (p, [])
  | b :: bs =>
    (((p.step capacity b).1.run capacity bs).1,
      (p.step capacity b).2.toList ++ ((p.step capacity b).1.run capacity bs).2)

/-- The assembler with that in progress. -/
def assembler (capacity : Nat) : Progress → Assembler
  | outside => { capacity }
  | inside bytes => { capacity, buffer := bytes }
  | overlong => { capacity, overflowed := true }

end Progress

namespace Assembler

variable {a : Assembler} {b : UInt8} {bs pre post body : Bytes}

/-- What the assembler has in progress. -/
def progress (a : Assembler) : Progress :=
  if a.overflowed then .overlong else if a.buffer = [] then .outside else .inside a.buffer

/-! ## One byte -/

/-- An assembler is no more than what it has in progress. -/
theorem WellFormed.eq_assembler (h : a.WellFormed) : a = a.progress.assembler a.capacity := by
  obtain ⟨capacity, buffer, overflowed⟩ := a
  cases overflowed with
  | true =>
    have hnil : buffer = [] := h.dropped rfl
    rw [hnil]
    rfl
  | false =>
    by_cases hnil : buffer = []
    · rw [hnil]
      rfl
    · simp [progress, Progress.assembler, hnil]

theorem wellFormed_takeByte (h : a.WellFormed) (b : UInt8) : (a.takeByte b).1.WellFormed := by
  by_cases hstart : b = start
  · rw [hstart, takeByte_start]
    exact wellFormed_append (wellFormed_reset a) [start]
  · by_cases hstop : b = stop
    · rw [hstop, takeByte_stop h]
      exact wellFormed_reset _
    · rw [takeByte_plain h hstart hstop]
      exact wellFormed_append h [b]

theorem capacity_extend (a : Assembler) (b : UInt8) : (a.extend b).capacity = a.capacity := by
  unfold extend
  split <;> rfl

theorem capacity_takeByte (a : Assembler) (b : UInt8) :
    (a.takeByte b).1.capacity = a.capacity := by
  unfold takeByte
  split
  · exact capacity_extend a.reset b
  · split
    · rfl
    · split
      · exact capacity_extend a b
      · rfl

/-- A frame that goes on is kept as long as it fits. -/
theorem progress_extend (hover : a.overflowed = false) (b : UInt8) :
    (a.extend b).progress = .keep a.capacity (a.buffer ++ [b]) := by
  unfold extend Progress.keep
  rw [List.length_append, List.length_singleton]
  by_cases hfits : a.buffer.length < a.capacity
  · rw [if_pos hfits, if_pos (by omega)]
    simp [progress, hover]
  · rw [if_neg hfits, if_neg (by omega)]
    rfl

/-- **A byte does to an assembler what it does to the reader.** -/
theorem takeByte_eq_step (h : a.WellFormed) (b : UInt8) :
    (a.takeByte b).1.progress = (a.progress.step a.capacity b).1 ∧
      (a.takeByte b).2 = (a.progress.step a.capacity b).2.toList := by
  unfold takeByte Progress.step
  by_cases hstart : b = start
  · rw [if_pos hstart, if_pos hstart, hstart]
    exact ⟨progress_extend rfl start, rfl⟩
  rw [if_neg hstart, if_neg hstart]
  cases hover : a.overflowed with
  | true =>
    have hin : a.inProgress = false := by simp [inProgress, h.dropped hover]
    have hprogress : a.progress = .overlong := by simp [progress, hover]
    rw [hprogress, hin]
    by_cases hstop : b = stop
    · simp [hstop, progress, reset]
    · simp [hstop, progress, hover]
  | false =>
    by_cases hnil : a.buffer = []
    · have hprogress : a.progress = .outside := by simp [progress, hover, hnil]
      rw [hprogress]
      by_cases hstop : b = stop
      · simp [hstop, inProgress, hnil, progress, reset]
      · simp [hstop, inProgress, hnil, progress, hover]
    · have hprogress : a.progress = .inside a.buffer := by simp [progress, hover, hnil]
      have hin : a.inProgress = true := by simpa [inProgress] using hnil
      rw [hprogress, hin]
      by_cases hstop : b = stop
      · simp only [if_pos hstop, if_true]
        refine ⟨rfl, ?_⟩
        by_cases hfits : a.buffer.length < a.capacity
        · rw [if_pos ⟨trivial, hfits⟩, if_pos (Nat.succ_le_of_lt hfits), hstop]
          rfl
        · rw [if_neg fun h => hfits h.2, if_neg fun h => hfits (Nat.lt_of_succ_le h)]
          rfl
      · simp only [if_neg hstop, if_true]
        exact ⟨progress_extend hover b, rfl⟩

/-! ## Whole chunks -/

theorem scan_eq_run (h : a.WellFormed) (bs : Bytes) :
    a.scan bs =
      ((a.progress.run a.capacity bs).1.assembler a.capacity,
        (a.progress.run a.capacity bs).2) := by
  induction bs generalizing a with
  | nil => exact congrArg (·, []) h.eq_assembler
  | cons b bs ih =>
    obtain ⟨hprogress, hframe⟩ := takeByte_eq_step h b
    rw [scan, ih (wellFormed_takeByte h b), capacity_takeByte, hprogress, hframe]
    rfl

/-- The bytes have no delimiter, or there is a last one. -/
theorem exists_last_delimiter (bs : Bytes) :
    start ∉ bs ∧ stop ∉ bs ∨
      ∃ pre d body, bs = pre ++ d :: body ∧ (d = start ∨ d = stop) ∧ start ∉ body ∧
        stop ∉ body := by
  induction bs with
  | nil => exact .inl ⟨List.not_mem_nil, List.not_mem_nil⟩
  | cons b bs ih =>
    rcases ih with ⟨hstart, hstop⟩ | ⟨pre, d, body, rfl, hd, hbody⟩
    · by_cases hb : b = start ∨ b = stop
      · exact .inr ⟨[], b, bs, rfl, hb, hstart, hstop⟩
      · rw [not_or] at hb
        exact .inl ⟨by simp [hstart, Ne.symm hb.1], by simp [hstop, Ne.symm hb.2]⟩
    · exact .inr ⟨b :: pre, d, body, rfl, hd, hbody⟩

/-- Nothing that could be the last delimiter follows it. -/
theorem eq_of_last_delimiter {pre' body' : Bytes} {d d' : UInt8}
    (heq : pre ++ d :: body = pre' ++ d' :: body') (hd : d ∉ body') (hd' : d' ∉ body) :
    d = d' ∧ body = body' := by
  rcases List.append_eq_append_iff.1 heq with ⟨gap, -, hgap⟩ | ⟨gap, -, hgap⟩
  · rcases gap with _ | ⟨g, gap⟩
    · simpa using hgap
    · rw [List.cons_append, List.cons.injEq] at hgap
      exact absurd (by simp [hgap.2]) hd'
  · rcases gap with _ | ⟨g, gap⟩
    · simpa [eq_comm] using hgap
    · rw [List.cons_append, List.cons.injEq] at hgap
      exact absurd (by simp [hgap.2]) hd

/-- **The bytes leave a frame behind that has outgrown the capacity**: it has begun with the last
`@` among them, or before them, and no delimiter has come since. -/
inductive Overflows (a : Assembler) (bs : Bytes) : Prop
  | within (pre body : Bytes) (h : bs = pre ++ start :: body) (hstart : start ∉ body)
      (hstop : stop ∉ body) (hlong : a.capacity < body.length + 1)
  | before (hstart : start ∉ bs) (hstop : stop ∉ bs)
      (hlong : a.overflowed = true ∨
        a.buffer ≠ [] ∧ a.capacity < a.buffer.length + bs.length)

/-- Bytes without `@` make a frame in progress outgrow the capacity, or have nothing to add to. -/
theorem overflowed_append_iff (h : a.WellFormed) (hstart : start ∉ bs) :
    (a.append bs).overflowed = true ↔
      a.overflowed = true ∨ a.buffer ≠ [] ∧ a.capacity < a.buffer.length + bs.length := by
  have hhead : bs.head? ≠ some start := fun hs => hstart (List.mem_of_head? hs)
  cases hover : a.overflowed with
  | true => simp [append_of_outside (.inl hover), hover]
  | false =>
    by_cases hnil : a.buffer = []
    · simp [append_of_outside (.inr ⟨hnil, hhead⟩), hover, hnil]
    · have hin : (a.buffer ++ bs).head? = some start := by
        rw [List.head?_append, h.opened hnil]
        rfl
      rw [append_of_inside h hover hin]
      by_cases hfits : a.buffer.length + bs.length ≤ a.capacity
      · simp [hfits, hover]
      · simp [hfits, hnil]
        omega

theorem wellFormed_scan (h : a.WellFormed) (bs : Bytes) : (a.scan bs).1.WellFormed := by
  induction bs generalizing a with
  | nil => exact h
  | cons b bs ih => exact ih (wellFormed_takeByte h b)

theorem capacity_scan (a : Assembler) (bs : Bytes) : (a.scan bs).1.capacity = a.capacity := by
  induction bs generalizing a with
  | nil => rfl
  | cons b bs ih => exact (ih (a.takeByte b).1).trans (capacity_takeByte a b)

theorem scan_start_append (hstart : start ∉ body) (hstop : stop ∉ body) :
    (a.scan (pre ++ start :: body)).1 = (a.scan pre).1.reset.append (start :: body) := by
  have hwf := wellFormed_reset (a.scan pre).1
  rw [scan_append, scan, takeByte_start, scan_plain (wellFormed_append hwf _) hstart hstop,
    ← append_append hwf [start] hstart]
  rfl

theorem scan_stop_append (h : a.WellFormed) (hstart : start ∉ body) (hstop : stop ∉ body) :
    (a.scan (pre ++ stop :: body)).1 = (a.scan pre).1.reset := by
  have hhead : body.head? ≠ some start := fun hs => hstart (List.mem_of_head? hs)
  rw [scan_append, scan, takeByte_stop (wellFormed_scan h pre), reset_append,
    scan_plain (wellFormed_reset _) hstart hstop, append_of_outside (.inr ⟨rfl, hhead⟩)]

/-- **The flag** is set from the byte on that made the frame outgrow the capacity, up to the next
delimiter. -/
theorem overflowed_scan_iff (h : a.WellFormed) (bs : Bytes) :
    (a.scan bs).1.overflowed = true ↔ a.Overflows bs := by
  rcases exists_last_delimiter bs with
    ⟨hstart, hstop⟩ | ⟨pre, d, body, rfl, rfl | rfl, hstart, hstop⟩
  · rw [scan_plain h hstart hstop, overflowed_append_iff h hstart]
    constructor
    · exact .before hstart hstop
    · rintro (⟨pre, body, rfl, -⟩ | ⟨-, -, hlong⟩)
      · exact absurd (by simp) hstart
      · exact hlong
  · have hopened : (a.scan (pre ++ start :: body)).1.overflowed = true ↔
        a.capacity < body.length + 1 := by
      rw [scan_start_append hstart hstop, append_of_inside (wellFormed_reset _) rfl rfl,
        ← capacity_scan a pre]
      have hlength : (a.scan pre).1.reset.buffer.length + (start :: body).length =
          body.length + 1 := Nat.zero_add _
      rw [hlength]
      by_cases hfits : body.length + 1 ≤ (a.scan pre).1.reset.capacity
      · rw [if_pos hfits]
        exact iff_of_false nofun (Nat.not_lt.2 hfits)
      · rw [if_neg hfits]
        exact iff_of_true rfl (Nat.lt_of_not_le hfits)
    rw [hopened]
    constructor
    · exact .within pre body rfl hstart hstop
    · rintro (⟨pre', body', heq, hstart', -, hlong⟩ | ⟨hstart', -⟩)
      · rw [(eq_of_last_delimiter heq hstart' hstart).2]
        exact hlong
      · exact absurd (by simp) hstart'
  · rw [scan_stop_append h hstart hstop]
    constructor
    · nofun
    · rintro (⟨pre', body', heq, -, hstop', -⟩ | ⟨-, hstop', -⟩)
      · have hne : stop ≠ start := by decide
        exact absurd (eq_of_last_delimiter heq hstop' hstart).1 hne
      · exact absurd (by simp) hstop'

/-! ## A frame after anything -/

variable {capacity : Nat} {tail done more : Bytes}

/-- Where the bytes are cut: before the `*`, or behind it. -/
theorem cut_cases {chunk : Bytes} (h : chunk ++ more = body ++ stop :: tail) :
    (∃ gap, body = chunk ++ gap ∧ more = gap ++ stop :: tail) ∨
      ∃ behind, chunk = body ++ stop :: behind ∧ tail = behind ++ more := by
  rcases List.append_eq_append_iff.1 h with hbefore | ⟨gap, hchunk, hgap⟩
  · exact .inl hbefore
  · rcases gap with _ | ⟨g, gap⟩
    · exact .inl ⟨[], by simpa using hchunk.symm, by simpa using hgap.symm⟩
    · rw [List.cons_append, List.cons.injEq] at hgap
      exact .inr ⟨gap, hgap.1 ▸ hchunk, hgap.2⟩

theorem append_inside {bs : Bytes} (hfits : done.length + bs.length + 1 ≤ capacity) :
    append { capacity, buffer := start :: done } bs =
      { capacity, buffer := start :: (done ++ bs) } := by
  have hwf : WellFormed { capacity, buffer := start :: done } :=
    ⟨fun _ => rfl, show done.length + 1 ≤ capacity by omega, nofun⟩
  rw [append_of_inside hwf rfl rfl]
  exact if_pos (show done.length + 1 + bs.length ≤ capacity by omega)

/-- An `@` opens a frame, whatever is in progress. -/
theorem takeIn_start_cons (hcap : 0 < a.capacity) (hpre : start ∉ pre) :
    a.takeIn (start :: pre) = takeIn { capacity := a.capacity, buffer := [start] } pre := by
  have hopen : a.reset.append [start] = { capacity := a.capacity, buffer := [start] } := by
    rw [append_of_inside (wellFormed_reset a) rfl rfl]
    exact if_pos hcap
  have htake := takeIn_append_start (a := a) (List.not_mem_nil (a := start)) pre
  rw [List.nil_append] at htake
  rw [htake, takeIn_of_not_mem hpre, ← hopen, ← append_append (wellFormed_reset a) [start] hpre]
  rfl

theorem push_start_cons (hcap : 0 < a.capacity) (hstart : start ∉ body) (hstop : stop ∉ body)
    {chunk : Bytes} (hcut : chunk ++ more = body ++ stop :: tail) :
    a.push (start :: chunk) = push { capacity := a.capacity, buffer := [start] } chunk := by
  have hne : stop ≠ start := by decide
  rcases cut_cases hcut with ⟨gap, rfl, -⟩ | ⟨behind, rfl, -⟩
  · rw [List.mem_append, not_or] at hstart hstop
    rw [push_of_not_mem (by simp [hne, hstop.1]), push_of_not_mem hstop.1,
      takeIn_start_cons hcap hstart.1]
  · rw [← List.cons_append, push_append_stop (by simp [hne, hstop]), push_append_stop hstop,
      List.cons_append, takeIn_start_cons hcap (by simp [hstart, hne.symm])]

/-- **A frame in progress is delivered when its `*` has come**, however the bytes up to it are cut.
What follows finds no frame in progress. -/
theorem pushAll_inside {chunks : List Bytes} (hstart : start ∉ body) (hstop : stop ∉ body)
    (hfits : done.length + body.length + 2 ≤ capacity)
    (hchunks : chunks.flatten = body ++ stop :: tail) :
    ∃ rest, rest.flatten = tail ∧
      pushAll { capacity, buffer := start :: done } chunks =
        ((pushAll { capacity } rest).1,
          (start :: (done ++ body) ++ [stop]) :: (pushAll { capacity } rest).2) := by
  induction chunks generalizing done body with
  | nil => exact absurd hchunks (by simp)
  | cons chunk chunks ih =>
    rw [List.flatten_cons] at hchunks
    rcases cut_cases hchunks with ⟨gap, rfl, hmore⟩ | ⟨behind, rfl, htail⟩
    · rw [List.mem_append, not_or] at hstart hstop
      rw [List.length_append] at hfits
      have hfits' : (done ++ chunk).length + gap.length + 2 ≤ capacity := by
        rw [List.length_append]
        omega
      obtain ⟨rest, hrest, hpush⟩ := ih hstart.2 hstop.2 hfits' hmore
      refine ⟨rest, hrest, ?_⟩
      rw [pushAll, push_of_not_mem hstop.1, takeIn_of_not_mem hstart.1,
        append_inside (by omega), hpush, List.append_assoc]
      rfl
    · refine ⟨behind :: chunks, htail.symm, ?_⟩
      have hstop' : start ∉ body ++ [stop] := by
        rw [List.mem_append, not_or]
        exact ⟨hstart, by decide⟩
      rw [pushAll, push_append_stop hstop, takeIn_of_not_mem hstop',
        append_inside (by rw [List.length_append, List.length_singleton]; omega)]
      simp [reset, frame?, pushAll]

/-- **A frame that fits is delivered once**, whatever the assembler has been through before, if its
`@` starts a chunk and no further delimiter is in it, however the rest is cut. -/
theorem pushAll_start_cons {chunk : Bytes} {chunks : List Bytes} (hstart : start ∉ body)
    (hstop : stop ∉ body) (hfits : body.length + 2 ≤ a.capacity)
    (hchunks : chunk ++ chunks.flatten = body ++ stop :: tail) :
    ∃ rest, rest.flatten = tail ∧
      a.pushAll ((start :: chunk) :: chunks) =
        ((pushAll { capacity := a.capacity } rest).1,
          (start :: body ++ [stop]) :: (pushAll { capacity := a.capacity } rest).2) := by
  have hfits' : ([] : Bytes).length + body.length + 2 ≤ a.capacity := by simpa using hfits
  have hflatten : (chunk :: chunks).flatten = body ++ stop :: tail := hchunks
  obtain ⟨rest, hrest, hpush⟩ := pushAll_inside hstart hstop hfits' hflatten
  refine ⟨rest, hrest, ?_⟩
  rw [pushAll, push_start_cons (by omega) hstart hstop hchunks]
  exact hpush

/-! ## Every history -/

/-- **The assembler reads as the reader does.** -/
structure Reads (capacity : Nat) (a : Assembler) : Prop where
  /-- The assembler is in a state of the reader. -/
  state : a = a.progress.assembler capacity
  /-- A separated chunk does to it what its bytes do to the reader one by one. -/
  push : ∀ chunk, Separated chunk →
    a.push chunk =
      ((a.progress.run capacity chunk).1.assembler capacity, (a.progress.run capacity chunk).2)
  /-- The frames are counted. -/
  counted : ∀ chunk, Separated chunk →
    a.completed chunk = (a.progress.run capacity chunk).2.length
  /-- The flag is set exactly from the byte on that made a frame outgrow the capacity, up to the
  next delimiter. -/
  flag : ∀ chunk, Separated chunk → ((a.push chunk).1.overflowed = true ↔ a.Overflows chunk)
  /-- A reset leaves no frame in progress. -/
  reset : a.reset = Progress.outside.assembler capacity
  /-- A frame whose `@` starts a chunk is delivered, once, and before all that follows it. -/
  delivers : ∀ body tail chunk chunks, start ∉ body → stop ∉ body → body.length + 2 ≤ capacity →
    chunk ++ chunks.flatten = body ++ stop :: tail →
    ∃ rest, rest.flatten = tail ∧
      a.pushAll ((start :: chunk) :: chunks) =
        ((pushAll { capacity } rest).1,
          (start :: body ++ [stop]) :: (pushAll { capacity } rest).2)

/-- **Whatever has been done to an assembler**, it goes on as the reader of single bytes does. -/
theorem reads_history (capacity : Nat) (inputs : List Input) :
    (history capacity inputs).assembler.Reads capacity := by
  have hsound := sound_history capacity inputs
  have hwf := hsound.wellFormed
  have hcap := hsound.bounded
  generalize (history capacity inputs).assembler = a at hwf hcap ⊢
  subst hcap
  have hpush : ∀ chunk, Separated chunk → a.push chunk = _ := fun chunk hs =>
    (push_eq_scan hwf hs).trans (scan_eq_run hwf chunk)
  constructor
  case state => exact hwf.eq_assembler
  case push => exact hpush
  case counted =>
    intro chunk hs
    rw [completed_eq_length, hpush chunk hs]
  case flag =>
    intro chunk hs
    rw [push_eq_scan hwf hs]
    exact overflowed_scan_iff hwf chunk
  case reset => rfl
  case delivers => exact fun _ _ _ _ hstart hstop => pushAll_start_cons hstart hstop

/-- A frame has just outgrown the capacity. Its end is ignored, and the next frame is delivered. -/
theorem push_of_overlong :
    let a := (history 6 [.chunk (Bytes.ascii ['\r', '@', '1', '2', '3']), .reset,
      .chunk (Bytes.ascii ['@', '1', '2', '3', '4', '5', '6'])]).assembler
    let chunk := Bytes.ascii ['7', '*', '\r', '@', '1', '*']
    a.overflowed = true ∧ Separated chunk ∧
      a.push chunk = (Progress.outside.assembler 6, [Bytes.ascii ['@', '1', '*']]) := by
  intro a chunk
  have hsep : Separated chunk := separated_of_count_le (by decide)
  refine ⟨by decide +kernel, hsep, ?_⟩
  rw [(reads_history 6 _).push chunk hsep]
  decide +kernel

end Assembler

end DomeLink
