/-!
# Comma-separated values

What a text of comma-separated values means, after RFC 4180. A record ends with a line feed, and
commas stand between its fields. A field that starts with a double quote ends at the next double
quote that is not doubled, behind which the field must be over; within it commas and line feeds are
ordinary characters. In other fields there are no double quotes.

`parse?` reads a text character by character (`Reader.step`), so a text is read part by part
(`Reader.run_append`). `Cell` is how a value is written as a field; a line of such fields is one
record (`reads_line`), and a quoted field that goes on behind its quote breaks the text
(`breaks_line`). So a text of lines is well-formed exactly if none of them is broken, and it is then
the records of its lines (`parse?_lines`).
-/

namespace DomeLink.Csv

/-- Where a reader stands in a field. -/
inductive Place
  /-- In a field without quotes, or before its first character. -/
  | bare
  /-- Between the quotes. -/
  | quoted
  /-- Behind a quote that ends the field, or is the first of two. -/
  | closed
  deriving DecidableEq, Repr

/-- What has been read of a text. -/
structure Reader where
  records : List (List String) := []
  /-- The fields of the record so far. -/
  fields : List String := []
  /-- The characters of the field so far. -/
  text : List Char := []
  place : Place := .bare
  deriving DecidableEq, Repr

namespace Reader

/-- The reader before a field. -/
def before (records : List (List String)) (fields : List String) : Reader := { records, fields }

/-- Takes in a character of the field. -/
def take (r : Reader) (c : Char) (place : Place) : Reader :=
  { r with text := r.text ++ [c], place }

/-- Takes in a character that ends the field. -/
def finish? (r : Reader) (c : Char) : Option Reader :=
  let fields := r.fields ++ [String.ofList r.text]
  if c = ',' then some (before r.records fields)
  else if c = '\n' then some (before (r.records ++ [fields]) [])
  else none

/-- Takes in a character. -/
def step (r : Reader) (c : Char) : Option Reader :=
  match r.place with
  | .bare =>
    if c = '"' then if r.text = [] then some { r with place := .quoted } else none
    else (r.finish? c).or (some (r.take c .bare))
  | .quoted => if c = '"' then some { r with place := .closed } else some (r.take c .quoted)
  | .closed => if c = '"' then some (r.take c .quoted) else r.finish? c

/-- Takes in characters. -/
def run (r : Reader) (cs : List Char) : Option Reader := cs.foldlM step r

end Reader

/-- The records of a text, if it is well-formed. -/
def parse? (s : String) : Option (List (List String)) :=
  (Reader.run (.before [] []) s.toList).bind fun r =>
    if r = .before r.records [] then some r.records else none

/-- The character neither ends a field nor is a quote. -/
def isPlain (c : Char) : Bool := c != '"' && c != ',' && c != '\n'

/-- The text can stand as a field without quotes. -/
def Plain (s : String) : Prop := ∀ c ∈ s.toList, isPlain c = true

/-- The text can stand between quotes. -/
def Quotable (s : String) : Prop := '"' ∉ s.toList

instance (s : String) : Decidable (Plain s) :=
  decidable_of_iff (s.toList.all isPlain = true) List.all_eq_true

instance (s : String) : Decidable (Quotable s) := inferInstanceAs (Decidable (¬ _ ∈ _))

/-- How a value is written as a field. -/
inductive Cell : String → String → Prop
  | bare {cell : String} (h : Plain cell) : Cell cell cell
  | quoted {value : String} (h : Quotable value) : Cell ("\"" ++ value ++ "\"") value

namespace Reader

variable {r : Reader} {cs ds : List Char} {records : List (List String)} {fields : List String}
  {cell value : String}

theorem run_append (r : Reader) (cs ds : List Char) :
    r.run (cs ++ ds) = (r.run cs).bind fun r' => r'.run ds :=
  List.foldlM_append

theorem run_cons (r : Reader) (c : Char) (cs : List Char) :
    r.run (c :: cs) = (r.step c).bind fun r' => r'.run cs :=
  List.foldlM_cons

theorem run_append_of_some {r' : Reader} (h : r.run cs = some r') (ds : List Char) :
    r.run (cs ++ ds) = r'.run ds := by
  rw [run_append, h, Option.bind_some]

theorem run_append_of_none (h : r.run cs = none) (ds : List Char) : r.run (cs ++ ds) = none := by
  rw [run_append, h, Option.bind_none]

/-! ## Fields -/

theorem run_plain (h : ∀ c ∈ cs, isPlain c = true) (text : List Char) :
    run { records, fields, text } cs = some { records, fields, text := text ++ cs } := by
  induction cs generalizing text with
  | nil => rw [List.append_nil]; rfl
  | cons c cs ih =>
    obtain ⟨hc, hcs⟩ := List.forall_mem_cons.1 h
    have hstep : step { records, fields, text } c =
        some { records, fields, text := text ++ [c] } := by
      simp only [isPlain, Bool.and_eq_true, bne_iff_ne] at hc
      simp [step, finish?, take, hc]
    rw [run_cons, hstep, Option.bind_some, ih hcs, List.append_assoc, List.singleton_append]

theorem run_quoted (h : '"' ∉ cs) (text : List Char) :
    run { records, fields, text, place := .quoted } cs =
      some { records, fields, text := text ++ cs, place := .quoted } := by
  induction cs generalizing text with
  | nil => rw [List.append_nil]; rfl
  | cons c cs ih =>
    obtain ⟨hc, hcs⟩ := List.ne_and_not_mem_of_not_mem_cons h
    have hstep : step { records, fields, text, place := .quoted } c =
        some { records, fields, text := text ++ [c], place := .quoted } := by
      simp [step, take, hc.symm]
    rw [run_cons, hstep, Option.bind_some, ih hcs, List.append_assoc, List.singleton_append]

theorem run_open (records : List (List String)) (fields : List String) :
    run (before records fields) ['"'] = some { records, fields, place := .quoted } := rfl

/-- **A field is read back** when it ends. -/
theorem run_cell (h : Cell cell value) {c : Char} (hc : c = ',' ∨ c = '\n') :
    run (before records fields) (cell.toList ++ [c]) =
      finish? { records, fields, text := value.toList } c := by
  cases h with
  | bare hplain =>
    rw [before, run_append_of_some (run_plain hplain []), run_cons, List.nil_append]
    rcases hc with rfl | rfl <;> rfl
  | quoted hvalue =>
    have hcell : ("\"" ++ value ++ "\"").toList ++ [c] = ['"'] ++ (value.toList ++ ['"', c]) := by
      simp
    rw [hcell, run_append_of_some (run_open records fields),
      run_append_of_some (run_quoted hvalue []), List.nil_append]
    rcases hc with rfl | rfl <;> rfl

/-- Behind a quoted field there is only the end of the field. -/
theorem run_broken (hcs : '"' ∉ cs) {c : Char} (hc : isPlain c = true)
    (rest : List Char) : run (before records fields) ('"' :: (cs ++ '"' :: c :: rest)) = none := by
  have hsplit : '"' :: (cs ++ '"' :: c :: rest) = ['"'] ++ (cs ++ (['"', c] ++ rest)) := rfl
  have hbroken : run { records, fields, text := cs, place := .quoted } ['"', c] = none := by
    simp only [isPlain, Bool.and_eq_true, bne_iff_ne] at hc
    simp [run, step, finish?, hc]
  rw [hsplit, run_append_of_some (run_open records fields), run_append_of_some (run_quoted hcs []),
    List.nil_append, run_append_of_none hbroken]

/-- Fields without quotes, each with a comma behind it. -/
theorem run_plain_cells {cells : List String} (h : ∀ cell ∈ cells, Plain cell) :
    run (before records fields) (cells.flatMap fun cell => cell.toList ++ [',']) =
      some (before records (fields ++ cells)) := by
  induction cells generalizing fields with
  | nil => rw [List.append_nil]; rfl
  | cons cell cells ih =>
    obtain ⟨hcell, hcells⟩ := List.forall_mem_cons.1 h
    have hfirst : run (before records fields) (cell.toList ++ [',']) =
        some (before records (fields ++ [cell])) := by
      rw [run_cell (.bare hcell) (.inl rfl)]
      simp [finish?]
    rw [List.flatMap_cons, run_append_of_some hfirst, ih hcells, List.append_assoc,
      List.singleton_append]

end Reader

/-! ## Lines -/

open Reader (run before)

variable {cells : List String} {last value : String} {cs : List Char}

/-- The line is one record. -/
def Reads (line : String) (record : List String) : Prop :=
  ∀ records, run (before records []) line.toList = some (before (records ++ [record]) [])

/-- No text is well-formed that goes on with the line. -/
def Breaks (line : String) : Prop := ∀ records, run (before records []) line.toList = none

theorem toList_intercalate_concat (cells : List String) (last : String) :
    (",".intercalate (cells ++ [last])).toList =
      (cells.flatMap fun cell => cell.toList ++ [',']) ++ last.toList := by
  rw [String.toList_intercalate, List.map_append, List.map_singleton]
  induction cells with
  | nil => exact List.intercalate_singleton
  | cons cell cells ih =>
    rw [List.map_cons, List.flatMap_cons, List.append_assoc, ← ih]
    cases cells with
    | nil => exact List.intercalate_cons_cons
    | cons cell' cells => exact List.intercalate_cons_cons

/-- **A line of fields is one record**: the last field may be quoted. -/
theorem reads_line (h : ∀ cell ∈ cells, Plain cell) (hlast : Cell last value) :
    Reads (",".intercalate (cells ++ [last]) ++ "\n") (cells ++ [value]) := by
  intro records
  have hend : run (before records cells) (last.toList ++ ['\n']) =
      some (before (records ++ [cells ++ [value]]) []) := by
    rw [Reader.run_cell hlast (.inr rfl)]
    simp [Reader.finish?]
  rw [String.toList_append, toList_intercalate_concat, List.append_assoc,
    Reader.run_append_of_some (Reader.run_plain_cells h)]
  exact hend

/-- A line of fields without quotes is its fields. -/
theorem reads_plain_line (h : ∀ cell ∈ cells, Plain cell) (hne : cells ≠ []) :
    Reads (",".intercalate cells ++ "\n") cells := by
  obtain ⟨init, last, rfl⟩ := List.eq_nil_or_concat cells |>.resolve_left hne
  rw [List.concat_eq_append] at h ⊢
  obtain ⟨hinit, hlast⟩ := List.forall_mem_append.1 h
  exact reads_line hinit (.bare (hlast last (List.mem_singleton_self last)))

/-- **A line is broken** if a quoted field goes on behind its quote. -/
theorem breaks_line (h : ∀ cell ∈ cells, Plain cell) (hcs : '"' ∉ cs) {c : Char}
    (hc : isPlain c = true) {rest : List Char}
    (hlast : last.toList = '"' :: (cs ++ '"' :: c :: rest)) :
    Breaks (",".intercalate (cells ++ [last]) ++ "\n") := by
  intro records
  rw [String.toList_append, toList_intercalate_concat, hlast, List.append_assoc,
    Reader.run_append_of_some (Reader.run_plain_cells h), List.nil_append, List.cons_append,
    List.append_assoc]
  exact Reader.run_broken hcs hc _

/-! ## Texts -/

section

variable {α : Type} {lines : Nat → α → String} {records : Nat → α → List String} {as : List α}
  {header : String} {names : List String} {broken : α → Prop}

theorem toList_join_cons (line : String) (lines : List String) :
    (String.join (line :: lines)).toList = line.toList ++ (String.join lines).toList := by
  rw [String.toList_join, String.toList_join, List.flatMap_cons]

/-- The lines are read one after the other. -/
theorem run_join (h : ∀ a ∈ as, ∀ i, Reads (lines i a) (records i a))
    (done : List (List String)) :
    run (before done []) (String.join (as.mapIdx lines)).toList =
      some (before (done ++ as.mapIdx records) []) := by
  induction as generalizing lines records done with
  | nil => rw [List.mapIdx_nil, List.mapIdx_nil, List.append_nil]; rfl
  | cons a as ih =>
    obtain ⟨ha, has⟩ := List.forall_mem_cons.1 h
    rw [List.mapIdx_cons, List.mapIdx_cons, toList_join_cons, Reader.run_append_of_some (ha 0 _),
      ih (fun a ha i => has a ha (i + 1)), List.append_assoc, List.singleton_append]

/-- The first broken line breaks the text. -/
theorem run_join_of_broken (hreads : ∀ a ∈ as, ¬ broken a → ∀ i, Reads (lines i a) (records i a))
    (hbreaks : ∀ a ∈ as, broken a → ∀ i, Breaks (lines i a)) (h : ∃ a ∈ as, broken a)
    (done : List (List String)) :
    run (before done []) (String.join (as.mapIdx lines)).toList = none := by
  induction as generalizing lines records done with
  | nil =>
    obtain ⟨a, ha, -⟩ := h
    cases ha
  | cons a as ih =>
    obtain ⟨hread, hreads⟩ := List.forall_mem_cons.1 hreads
    obtain ⟨hbreak, hbreaks⟩ := List.forall_mem_cons.1 hbreaks
    rw [List.mapIdx_cons, toList_join_cons]
    by_cases ha : broken a
    · exact Reader.run_append_of_none (hbreak ha 0 _) _
    · have has : ∃ a ∈ as, broken a := by
        obtain ⟨a', hmem, ha'⟩ := h
        rcases List.mem_cons.1 hmem with rfl | hmem
        · exact absurd ha' ha
        · exact ⟨a', hmem, ha'⟩
      rw [Reader.run_append_of_some (hread ha 0 _)]
      exact ih (fun a hmem ha i => hreads a hmem ha (i + 1))
        (fun a hmem ha i => hbreaks a hmem ha (i + 1)) has _

/-- **A text of lines is the records of its lines.** -/
theorem parse?_lines (hheader : Reads header names)
    (h : ∀ a ∈ as, ∀ i, Reads (lines i a) (records i a)) :
    parse? (header ++ String.join (as.mapIdx lines)) = some (names :: as.mapIdx records) := by
  have hrun : run (before [] []) (header ++ String.join (as.mapIdx lines)).toList =
      some (before (names :: as.mapIdx records) []) := by
    rw [String.toList_append, Reader.run_append_of_some (hheader []), run_join h]
    rfl
  rw [parse?, hrun, Option.bind_some]
  exact if_pos rfl

/-- **A text with a broken line is not well-formed.** -/
theorem parse?_lines_of_broken (hheader : Reads header names)
    (hreads : ∀ a ∈ as, ¬ broken a → ∀ i, Reads (lines i a) (records i a))
    (hbreaks : ∀ a ∈ as, broken a → ∀ i, Breaks (lines i a)) (h : ∃ a ∈ as, broken a) :
    parse? (header ++ String.join (as.mapIdx lines)) = none := by
  have hrun : run (before [] []) (header ++ String.join (as.mapIdx lines)).toList = none := by
    rw [String.toList_append, Reader.run_append_of_some (hheader []),
      run_join_of_broken hreads hbreaks h]
  rw [parse?, hrun, Option.bind_none]

end

end DomeLink.Csv
