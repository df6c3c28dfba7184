import DomeLink.Capture.Table
import DomeLink.Tool.Run

/-!
# The program

Model of the two programs `parse_dump` and `plc_tool` as they meet files and the console
(specification, section 12).

The arguments `dump CAPTURE TABLE` have the records of a capture file written as a table into
another file; all other arguments are those of the tool. What is read, written and printed is
decided by `Capture` and `Tool`.

Out of scope: the name by which a program was called, and files that fail while they are read or
written.
-/

namespace DomeLink

/-- The bytes of a file that can be read. -/
def readFile? (path : String) : IO (Option Bytes) := do
  match ← (IO.FS.readBinFile path).toBaseIO with
  | .ok bytes => return some bytes.toList
  | .error _ => return none

/-- Ends a run with an error. -/
def refuse (text : String) : IO UInt32 := do
  IO.eprintln ("Error: " ++ text)
  return 1

/-- Writes the table of a capture file. -/
def dump : List String → IO UInt32
  | input :: output :: _ => do
    match ← readFile? input with
    | none => refuse s!"Failed to open {input}"
    | some data =>
      let told := Capture.summary input output data
      match ← (IO.FS.writeFile output (Capture.table (Capture.records data))).toBaseIO with
      | .ok _ =>
        told.forM (IO.println ·)
        return 0
      | .error _ =>
        told.dropLast.forM (IO.println ·)
        refuse s!"Failed to create {output}"
  | _ => refuse "Usage: dump <capture_file> <output_csv>"

/-- Runs the tool with the configuration file that its arguments name. -/
def runTool (args : List String) : IO UInt32 := do
  let file ←
    match Tool.Arguments.ofArgs args with
    | .ok a => (a.config.mapM readFile?)
    | .error _ => pure none
  let report := Tool.run (fun _ => file.join) args
  report.output.forM (IO.println ·)
  report.errors.forM (IO.eprintln ·)
  return UInt32.ofNat report.exit

end DomeLink

/-- The program. -/
def main : List String → IO UInt32
  | "dump" :: args => DomeLink.dump args
  | args => DomeLink.runTool args
