import DomeLink.Capture

/-!
# Captures as tables

Model of the table that `parse_dump` writes, and of the lines that it prints (specification, section
12).

The records of a capture as lines of comma-separated values: a line of column names and one line for
each record, which starts with the number of the record and its kind. Flag words are in uppercase
hexadecimal, those that take two digits on the line with two digits. The last column of a rejected
frame holds its text and the fault, between double quotes; in the text of the frame single quotes
take the place of double ones.
-/

namespace DomeLink.Capture

/-- The names of the columns. -/
def columns : List String :=
  ["index", "kind", "dome_azimuth", "dome", "shutter", "dropout", "aperture", "filter",
    "acq_mirror", "instrument_shutter", "focus_position", "focus", "critical", "eht", "handset",
    "aperture_slot", "filter_slot", "ha_pulses", "dec_pulses", "detail"]

/-- The bits of a flag word. -/
def bits {t : FlagTable} (width : Nat) (x : Flags t) : String := Text.upperHex width x.toNat

/-- The columns of a status, from the third on. -/
def statusCells (s : Status) : List String :=
  [toString s.domeAzimuth.toNat, bits 1 s.dome, bits 1 s.shutter, bits 1 s.dropout,
    bits 1 s.aperture, bits 1 s.filter, bits 1 s.acqMirror, bits 1 s.instrumentShutter,
    toString s.focusPosition.toInt, bits 2 s.focus, bits 1 s.critical, s.eht.name,
    Text.upperHex 2 s.handset.toNat, toString s.apertureSlot.toNat, toString s.filterSlot.toNat,
    toString s.haPulses.toNat, toString s.decPulses.toNat, ""]

/-- The columns of a command, from the third on. -/
def commandCells (c : Command) : List String :=
  [toString c.domeTarget.toNat, bits 1 c.dome, bits 1 c.shutter, bits 1 c.dropout,
    bits 1 c.aperture, bits 1 c.filter, bits 1 c.acqMirror,
    bits 1 (c.misc.common MiscCommand.instrumentShutterOpen), toString c.focusTarget.toInt,
    bits 1 c.focus, "", c.eht.name, "", toString c.apertureSlot.toNat,
    toString c.filterSlot.toNat, "", "", "misc=" ++ bits 1 c.misc]

/-- The columns of a record without values, from the third on, with the given detail. -/
def bareCells (detail : String) : List String := List.replicate 17 "" ++ [detail]

/-- The text of a frame, with single quotes for double ones. -/
def frameText (frame : Bytes) : String :=
  String.ofList ((Utf8.decodeLossy frame).map fun c => if c = '"' then '\'' else c)

/-- The columns of a record, from the third on. -/
def cells : CaptureRecord → List String
  | .status s => statusCells s
  | .command c => commandCells c
  | .statusRequest | .ack => bareCells ""
  | .rejected frame fault => bareCells ("\"" ++ frameText frame ++ " (" ++ fault.message ++ ")\"")

/-- A line of the table. -/
def line (cells : List String) : String := ",".intercalate cells ++ "\n"

/-- The line of a record. -/
def row (index : Nat) (r : CaptureRecord) : String :=
  line (toString index :: r.kind.name :: cells r)

/-- The table of a capture. -/
def table (rs : List CaptureRecord) : String := line columns ++ String.join (rs.mapIdx row)

/-- How many records are of a kind. -/
def count (k : CaptureRecord.Kind) (rs : List CaptureRecord) : Nat := rs.countP fun r => r.kind = k

/-- What is told while a capture from one file is written as a table into another. -/
def summary (input output : String) (data : Bytes) : List String :=
  let rs := records data
  [s!"Read {data.length} bytes from {input}",
    s!"Frames: {count .status rs} status, {count .statusRequest rs} status requests, " ++
      s!"{count .command rs} commands, {count .ack rs} acks, {count .rejected rs} rejected",
    s!"Wrote {rs.length} records to {output}"]

end DomeLink.Capture
