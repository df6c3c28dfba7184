import DomeLink.Command.Codec
import DomeLink.Status.Codec
import DomeLink.Wire.Assembler

/-!
# Captures of the line

Model of the records and of `classify` in `parse_dump` (specification, section 12).

A capture is everything that went over the line, in both directions. `Capture.records` takes it
apart into frames and says of each what it is, or why it is nothing that belongs there.

A frame is judged by its header and, since a reply starts like its request, by its length: only what
is as long as a reply or a command is decoded as one.

Out of scope: files, which are in `Main`.
-/

namespace DomeLink

/-- What a frame of a capture is. -/
inductive CaptureRecord
  | status (status : Status)
  | ack
  | command (command : Command)
  | statusRequest
  | rejected (frame : Bytes) (fault : Fault)
  deriving DecidableEq, Repr

namespace CaptureRecord

/-- The kinds of records, as they are counted. -/
inductive Kind
  | status
  | statusRequest
  | command
  | ack
  | rejected
  deriving DecidableEq, Repr

/-- The kind of a record. -/
def kind : CaptureRecord → Kind
  | .status _ => .status
  | .ack => .ack
  | .command _ => .command
  | .statusRequest => .statusRequest
  | .rejected _ _ => .rejected

/-- The name of the kind. -/
def Kind.name : Kind → String
  | .status => "status"
  | .statusRequest => "status_request"
  | .command => "command"
  | .ack => "ack"
  | .rejected => "rejected"

end CaptureRecord

namespace Capture

/-- A value as a record, or the frame as a rejected one. -/
def recordOf {α : Type} (frame : Bytes) (record : α → CaptureRecord) : Outcome α → CaptureRecord
  | .ok a => record a
  | .error fault => .rejected frame fault

/-- The greatest length of a frame that is not decoded. -/
def shortLength : Nat := 20

/-- Says what a frame is. -/
def classify (frame : Bytes) : CaptureRecord :=
  if (Frame.statusHeader ++ Status.successCode).isPrefixOf frame && shortLength < frame.length then
    recordOf frame .status (Status.decode frame)
  else if Frame.statusHeader.isPrefixOf frame then
    recordOf frame (fun _ => .statusRequest) (Frame.checkRequest frame)
  else if Frame.commandHeader.isPrefixOf frame && shortLength < frame.length then
    recordOf frame .command (Command.decode frame)
  else recordOf frame (fun _ => .ack) (Frame.checkReply .commandAck frame)

/-- The frames of a capture: the assembler is large enough for any of them. -/
def frames (data : Bytes) : List Bytes :=
  (({ capacity := max data.length 1 } : Assembler).push data).2

/-- The records of a capture, in the order of its frames. -/
def records (data : Bytes) : List CaptureRecord := (frames data).map classify

end Capture

end DomeLink
