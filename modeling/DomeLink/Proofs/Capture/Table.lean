import DomeLink.Capture.Table
import DomeLink.Proofs.Capture.Csv
import DomeLink.Proofs.Capture.Headers
import DomeLink.Proofs.Numeral

/-!
# Captures as comma-separated values

Whether the table of a capture is read back as it is meant. The columns of what is recognized are
numerals and names, so their rows need no quotes. The last column of a rejected frame is quoted, but
nothing in it is escaped: the text of the frame has single quotes for double ones, and the text of
the fault is taken as it is. Only the fault of a header has double quotes in its text, around the
two headers (`quotable_message`).

So the row of a frame is one record of the columns that are meant (`reads_row`), unless the frame is
rejected for its header, and then it breaks the table (`breaks_row`). A table is well-formed exactly
if no frame of the capture has another header (`table_wellFormed_iff`).
-/

namespace DomeLink

namespace Csv

variable {s t : String}

/-! ## Texts that can stand in a field -/

theorem Plain.append (hs : Plain s) (ht : Plain t) : Plain (s ++ t) := by
  rw [Plain, String.toList_append]
  exact List.forall_mem_append.2 ⟨hs, ht⟩

theorem Plain.quotable (h : Plain s) : Quotable s := fun hmem => absurd (h _ hmem) (by decide)

theorem Quotable.append (hs : Quotable s) (ht : Quotable t) : Quotable (s ++ t) := by
  rw [Quotable, String.toList_append, List.mem_append]
  exact not_or.2 ⟨hs, ht⟩

theorem isPlain_digitChar :
    ∀ d < 16, isPlain (Nat.digitChar d) = true ∧ isPlain (Nat.digitChar d).toUpper = true := by
  decide

theorem plain_nat (n : Nat) : Plain (toString n) := by
  rw [Plain, Nat.toString_eq_ofList_toDigits, String.toList_ofList]
  intro c hc
  obtain ⟨d, hd, rfl⟩ := Text.exists_digit_of_mem (by decide) hc
  exact (isPlain_digitChar d (by omega)).1

theorem plain_int (i : Int) : Plain (toString i) := by
  cases i with
  | ofNat n => exact plain_nat n
  | negSucc n => exact Plain.append (by decide) (plain_nat (n + 1))

theorem plain_padZeros {cs : List Char} (h : ∀ c ∈ cs, isPlain c = true) (width : Nat) :
    Plain (String.ofList (Text.padZeros width cs)) := by
  rw [Plain, String.toList_ofList]
  refine List.forall_mem_append.2 ⟨fun c hc => ?_, h⟩
  rw [(List.mem_replicate.1 hc).2]
  decide

theorem plain_upperHex (width n : Nat) : Plain (Text.upperHex width n) := by
  refine plain_padZeros (fun c hc => ?_) width
  obtain ⟨c', hc', rfl⟩ := List.mem_map.1 hc
  obtain ⟨d, hd, rfl⟩ := Text.exists_digit_of_mem (by decide) hc'
  exact (isPlain_digitChar d hd).2

theorem plain_lowerHex (width n : Nat) : Plain (Text.lowerHex width n) := by
  refine plain_padZeros (fun c hc => ?_) width
  obtain ⟨d, hd, rfl⟩ := Text.exists_digit_of_mem (by decide) hc
  exact (isPlain_digitChar d hd).1

end Csv

namespace Capture

open Csv (Plain Quotable Cell Reads Breaks plain_nat plain_int plain_upperHex)

variable {r : CaptureRecord} {frame : Bytes} {fault : Fault}

/-! ## The columns of a record -/

theorem plain_bits {t : FlagTable} (width : Nat) (x : Flags t) : Plain (bits width x) :=
  plain_upperHex width x.toNat

theorem plain_eht (mode : EhtMode) : Plain mode.name := by
  cases mode <;> decide

theorem plain_statusCells (s : Status) : ∀ cell ∈ statusCells s, Plain cell := by
  simp only [statusCells, List.forall_mem_cons]
  exact ⟨plain_nat _, plain_bits _ _, plain_bits _ _, plain_bits _ _, plain_bits _ _,
    plain_bits _ _, plain_bits _ _, plain_bits _ _, plain_int _, plain_bits _ _, plain_bits _ _,
    plain_eht _, plain_upperHex _ _, plain_nat _, plain_nat _, plain_nat _, plain_nat _, by decide,
    nofun⟩

theorem plain_commandCells (c : Command) : ∀ cell ∈ commandCells c, Plain cell := by
  simp only [commandCells, List.forall_mem_cons]
  exact ⟨plain_nat _, plain_bits _ _, plain_bits _ _, plain_bits _ _, plain_bits _ _,
    plain_bits _ _, plain_bits _ _, plain_bits _ _, plain_int _, plain_bits _ _, by decide,
    plain_eht _, by decide, plain_nat _, plain_nat _, by decide, by decide,
    Plain.append (by decide) (plain_bits _ _), nofun⟩

theorem quotable_frameText (frame : Bytes) : Quotable (frameText frame) := by
  rw [Quotable, frameText, String.toList_ofList, List.mem_map]
  rintro ⟨c, -, hc⟩
  split at hc
  · exact absurd hc (by decide)
  · contradiction

/-- **No fault but that of a header quotes anything** in its text. -/
theorem quotable_message (h : fault.NotHeader) : Quotable fault.message := by
  have nat (n : Nat) : Quotable (toString n) := (plain_nat n).quotable
  have int (i : Int) : Quotable (toString i) := (plain_int i).quotable
  have upper (n : Nat) : Quotable (Text.upperHex 2 n) := (plain_upperHex 2 n).quotable
  cases fault with
  | header expected actual => exact absurd rfl (h expected actual)
  | delimiter | checksumField => decide
  | tooShort expected actual =>
    exact .append (.append (.append (by decide) (nat _)) (by decide)) (nat _)
  | checksum stored computed =>
    exact .append (.append (.append (by decide) (upper _)) (by decide)) (upper _)
  | endCode code => exact .append (by decide) (upper _)
  | digit offset byte =>
    exact .append (.append (by decide) (Csv.plain_lowerHex 2 _).quotable)
      (.append (by decide) (nat _))
  | outOfRange q value =>
    have hname : Quotable q.name := by cases q <;> decide
    have hvalue : Quotable s!" value {value} outside " :=
      .append (.append (by decide) (int _)) (by decide)
    exact .append (.append (.append (.append hname hvalue) (int _)) (by decide)) (int _)
  | overflow op => cases op <;> decide
  | outOfBounds index length =>
    exact .append (.append (.append (by decide) (nat _)) (by decide)) (nat _)

/-! ## Rows -/

/-- The columns of a record from the third on, as they are meant: the text of a rejected frame and
the fault stand in the last one without the quotes around them. -/
def detailed : CaptureRecord → List String
  | .rejected frame fault => bareCells (frameText frame ++ " (" ++ fault.message ++ ")")
  | r => cells r

/-- The columns of a record, as they are meant. -/
def values (index : Nat) (r : CaptureRecord) : List String :=
  toString index :: r.kind.name :: detailed r

theorem length_values (index : Nat) (r : CaptureRecord) :
    (values index r).length = columns.length := by
  cases r <;> simp [values, detailed, cells, statusCells, commandCells, bareCells, columns]

theorem plain_kindName (k : CaptureRecord.Kind) : Plain k.name := by
  cases k <;> decide

/-- What starts every row. -/
theorem plain_front (index : Nat) (r : CaptureRecord) {rest : List String}
    (h : ∀ cell ∈ rest, Plain cell) :
    ∀ cell ∈ toString index :: r.kind.name :: rest, Plain cell :=
  List.forall_mem_cons.2 ⟨plain_nat index, List.forall_mem_cons.2 ⟨plain_kindName _, h⟩⟩

/-- The columns that a rejected frame leaves empty. -/
theorem plain_empty : ∀ cell ∈ List.replicate 17 "", Plain cell := by
  intro cell hcell
  rw [(List.mem_replicate.1 hcell).2]
  decide

theorem reads_plain_row (h : ∀ cell ∈ cells r, Plain cell) (index : Nat) :
    Reads (row index r) (toString index :: r.kind.name :: cells r) :=
  Csv.reads_plain_line (plain_front index r h) (List.cons_ne_nil _ _)

theorem row_eq {init : List String} {last : String} (h : cells r = init ++ [last]) (index : Nat) :
    row index r = ",".intercalate ((toString index :: r.kind.name :: init) ++ [last]) ++ "\n" := by
  rw [row, line, h, List.cons_append, List.cons_append]

theorem values_eq {init : List String} {value : String} (h : detailed r = init ++ [value])
    (index : Nat) : values index r = (toString index :: r.kind.name :: init) ++ [value] := by
  rw [values, h, List.cons_append, List.cons_append]

/-- The column of a rejected frame is its text and the fault between quotes. -/
theorem cells_rejected (frame : Bytes) (fault : Fault) :
    cells (.rejected frame fault) = List.replicate 17 "" ++
      ["\"" ++ (frameText frame ++ " (" ++ fault.message ++ ")") ++ "\""] := by
  have hend : ")\"" = ")" ++ "\"" := by decide
  rw [cells, bareCells, hend]
  simp only [String.append_assoc]

/-- The record is a frame that is rejected for its header. -/
def Misheaded (r : CaptureRecord) : Prop :=
  ∃ frame expected actual, r = .rejected frame (.header expected actual)

/-- **A row is one record** of the columns that are meant, unless the fault is one of a header. -/
theorem reads_row (h : ¬ Misheaded r) (index : Nat) : Reads (row index r) (values index r) := by
  cases r with
  | status s => exact reads_plain_row (r := .status s) (plain_statusCells s) index
  | command c => exact reads_plain_row (r := .command c) (plain_commandCells c) index
  | ack | statusRequest => exact reads_plain_row (by decide) index
  | rejected frame fault =>
    have hmessage : Quotable fault.message :=
      quotable_message fun expected actual hfault => h ⟨frame, expected, actual, by rw [hfault]⟩
    have hvalue : Quotable (frameText frame ++ " (" ++ fault.message ++ ")") :=
      .append (.append (.append (quotable_frameText frame) (by decide)) hmessage) (by decide)
    rw [row_eq (cells_rejected frame fault), values_eq rfl]
    exact Csv.reads_line (plain_front index _ plain_empty) (.quoted hvalue)

/-! ## Rows of other headers -/

/-- A text that starts with `@` stands behind a quote as it is. -/
theorem exists_quote_start (tail : Bytes) :
    ∃ rest, (Text.quote (Utf8.decodeLossy (Bytes.start :: tail))).toList = '"' :: '@' :: rest := by
  have hdecode : Utf8.decodeLossy (Bytes.start :: tail) = '@' :: Utf8.decodeLossy tail := by
    have hscan : Utf8.scan Bytes.start tail = (some '@', 0) := rfl
    rw [Utf8.decodeLossy, Utf8.pieces, hscan]
    rfl
  have hstart : Text.quoteChar '@' = "@" := by decide +kernel
  rw [hdecode, Text.quote, List.map_cons, hstart, String.toList_append, String.toList_append,
    Csv.toList_join_cons]
  exact ⟨_, rfl⟩

/-- A text that starts with a quote is found behind what stands before it. -/
theorem toList_around {q : String} {rest : List Char} (hq : q.toList = '"' :: '@' :: rest)
    (a b c d e f : String) :
    ("\"" ++ (a ++ b ++ (c ++ q ++ d ++ e) ++ f) ++ "\"").toList =
      '"' :: ((a ++ b ++ c).toList ++ '"' :: '@' :: (rest ++ (d ++ e ++ f).toList ++ ['"'])) := by
  have hquote : "\"".toList = ['"'] := by decide
  simp only [String.toList_append, hq, hquote, List.append_assoc, List.cons_append,
    List.nil_append]

/-- **The fault of a header breaks its row.** -/
theorem breaks_row (index : Nat) (frame tail actual : Bytes) :
    Breaks (row index (.rejected frame (.header (Bytes.start :: tail) actual))) := by
  obtain ⟨rest, hrest⟩ := exists_quote_start tail
  have hfront : Quotable (frameText frame ++ " (" ++ "header mismatch: expected ") :=
    .append (.append (quotable_frameText frame) (by decide)) (by decide)
  have hmessage : (Fault.header (Bytes.start :: tail) actual).message =
      "header mismatch: expected " ++ Text.quote (Utf8.decodeLossy (Bytes.start :: tail)) ++
        ", got " ++ Text.quote (Utf8.decodeLossy actual) := rfl
  have hlast := toList_around hrest (frameText frame) " (" "header mismatch: expected " ", got "
    (Text.quote (Utf8.decodeLossy actual)) ")"
  rw [row_eq (cells_rejected frame _), hmessage]
  exact Csv.breaks_line (plain_front index _ plain_empty) hfront (by decide) hlast

/-! ## Tables -/

theorem reads_columns : Reads (line columns) columns :=
  Csv.reads_plain_line (by decide) (List.cons_ne_nil _ _)

variable {data : Bytes} {expected actual : Bytes}

/-- The frames that are rejected for their headers are those of other headers. -/
theorem exists_misheaded_iff :
    (∃ r ∈ records data, Misheaded r) ↔
      ∃ frame ∈ frames data, ∃ expected actual, OtherHeader frame expected actual := by
  constructor
  · rintro ⟨r, hr, f, expected, actual, rfl⟩
    obtain ⟨frame, hframe, hclassify⟩ := List.mem_map.1 hr
    have hother := (classify_eq_header_iff (isFrame_of_mem_frames hframe)).1 hclassify
    exact ⟨frame, hframe, expected, actual, hother.2⟩
  · rintro ⟨frame, hframe, expected, actual, hother⟩
    refine ⟨classify frame, List.mem_map_of_mem hframe, frame, expected, actual, ?_⟩
    exact (classify_eq_header_iff (isFrame_of_mem_frames hframe)).2 ⟨rfl, hother⟩

/-- Every header that is asked for starts a frame. -/
theorem OtherHeader.exists_start (h : OtherHeader frame expected actual) :
    ∃ tail, expected = Bytes.start :: tail := by
  cases h <;> exact ⟨_, rfl⟩

/-- **A table is its records** if no frame is of another header. -/
theorem parse?_table (h : ∀ r ∈ records data, ¬ Misheaded r) :
    Csv.parse? (table (records data)) = some (columns :: (records data).mapIdx values) :=
  Csv.parse?_lines reads_columns fun r hr => reads_row (h r hr)

/-- **A frame of another header breaks the table.** -/
theorem parse?_table_of_otherHeader
    (h : ∃ frame ∈ frames data, ∃ expected actual, OtherHeader frame expected actual) :
    Csv.parse? (table (records data)) = none := by
  refine Csv.parse?_lines_of_broken reads_columns (fun r _ => reads_row) ?_
    (exists_misheaded_iff.2 h)
  rintro r hr ⟨f, expected, actual, rfl⟩ index
  obtain ⟨frame, hframe, hclassify⟩ := List.mem_map.1 hr
  obtain ⟨-, hother⟩ := (classify_eq_header_iff (isFrame_of_mem_frames hframe)).1 hclassify
  obtain ⟨tail, rfl⟩ := hother.exists_start
  exact breaks_row index f tail actual

/-- **The table of a capture is well-formed** exactly if no frame of the capture has another header:
it is then the names of the columns and one record of as many columns for each frame, which starts
with its number and its kind. -/
theorem table_wellFormed_iff (data : Bytes) :
    (∃ rows : List (List String), Csv.parse? (table (records data)) = some (columns :: rows) ∧
          rows.length = (frames data).length ∧ (∀ row ∈ columns :: rows, row.length = 20) ∧
            ∀ (i : Nat) (frame : Bytes), (frames data)[i]? = some frame →
              ∃ rest, rows[i]? = some (toString i :: (classify frame).kind.name :: rest)) ↔
      ∀ frame ∈ frames data, ∀ expected actual, ¬ OtherHeader frame expected actual := by
  constructor
  · rintro ⟨rows, hrows, -⟩ frame hframe expected actual hother
    rw [parse?_table_of_otherHeader ⟨frame, hframe, expected, actual, hother⟩] at hrows
    cases hrows
  · intro h
    have hheaded : ∀ r ∈ records data, ¬ Misheaded r := by
      intro r hr hmis
      obtain ⟨frame, hframe, expected, actual, hother⟩ := exists_misheaded_iff.1 ⟨r, hr, hmis⟩
      exact h frame hframe expected actual hother
    refine ⟨_, parse?_table hheaded, ?_, List.forall_mem_cons.2 ⟨rfl, ?_⟩, fun i frame hi => ?_⟩
    · rw [List.length_mapIdx, records, List.length_map]
    · intro row hrow
      obtain ⟨i, hi, rfl⟩ := List.exists_of_mem_mapIdx hrow
      exact length_values i _
    · rw [List.getElem?_mapIdx, records, List.getElem?_map, hi]
      exact ⟨_, rfl⟩

/-- A frame of none of the headers. -/
def strayFrame : Bytes := Bytes.ascii ['@', '0', '0', 'X', 'X', '0', '0', '0', '0', '0', '*']

/-- Its table cannot be read. -/
theorem table_of_strayFrame :
    frames strayFrame = [strayFrame] ∧ Csv.parse? (table (records strayFrame)) = none := by
  have hframes : frames strayFrame = [strayFrame] := by decide +kernel
  refine ⟨hframes, parse?_table_of_otherHeader ⟨strayFrame, ?_, _, _, .ack ?_ ?_ ?_⟩⟩
  · rw [hframes]
    exact List.mem_singleton_self _
  all_goals decide +kernel

end Capture

end DomeLink
