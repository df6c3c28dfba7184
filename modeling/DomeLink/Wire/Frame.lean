import DomeLink.Wire.Checksum
import DomeLink.Wire.Fault

/-!
# Frames

Model of `frame` in `plc-protocol` (specification, section 10): `status_request`, `command_ack`,
`validate`, `validate_request` and `validate_command`.

Every frame starts with `@`, a unit number and a two-letter header code, and ends with two check
digits, `*` and a carriage return.

* status request: `@00RD`, word address, word count; 17 bytes
* status reply: `@00RD`, end code, 68 data characters; 79 bytes
* command: `@00WD`, word address, 44 data characters; 57 bytes
* command acknowledgement: `@00WD`, end code; 11 bytes

Frames come in without their carriage return, or with it; both are accepted. The checks have an
order, and the first that fails gives the fault. A frame longer than its kind is accepted, the
status request excepted.
-/

namespace DomeLink.Frame

/-- How status requests and their replies start. -/
def statusHeader : Bytes := .ascii ['@', '0', '0', 'R', 'D']

/-- How commands and their acknowledgements start. -/
def commandHeader : Bytes := .ascii ['@', '0', '0', 'W', 'D']

/-- The first data word that a status request reads. -/
def statusAddress : Bytes := .ascii ['0', '0', '0', '0']

/-- The number of data words that a status request reads. -/
def statusCount : Bytes := .ascii ['0', '0', '1', '7']

/-- The first data word that a command writes. -/
def commandAddress : Bytes := .ascii ['0', '1', '0', '0']

/-- The length of a status request without its carriage return. -/
def statusRequestLength : Nat := 16

/-- The length of a command without its carriage return. -/
def commandLength : Nat := 56

/-- The length of a transmitted status reply. -/
def statusReplyLength : Nat := 79

/-- The request for the status. -/
def statusRequest : Bytes := Checksum.terminate (statusHeader ++ statusAddress ++ statusCount)

/-- The acknowledgement of a command with an end code; zero is success. -/
def commandAck (endCode : UInt8) : Bytes :=
  Checksum.terminate (commandHeader ++ Digits.writeHex 2 endCode.toUInt32)

/-- What the controller sends. -/
inductive ReplyKind
  | status
  | commandAck
  deriving DecidableEq, Repr

namespace ReplyKind

/-- The header that the reply echoes. -/
def header : ReplyKind → Bytes
  | status => statusHeader
  | commandAck => commandHeader

/-- The least length of the reply without its carriage return. -/
def minLength : ReplyKind → Nat
  | status => 78
  | commandAck => 10

end ReplyKind

/-- The frame stands between its delimiters. -/
def isDelimited (body : Bytes) : Bool :=
  body.head? = some Bytes.start && body.getLast? = some Bytes.stop

/-- Accepts a frame whose check field is right. -/
def checkSum (body : Bytes) : Outcome Unit :=
  match Checksum.storedAndComputed? body with
  | none => .error .checksumField
  | some (stored, computed) =>
    if stored = computed then .ok () else .error (.checksum stored computed)

/-- Accepts a delimited frame whose check field is right. -/
def checkBody (body : Bytes) : Outcome Unit :=
  if isDelimited body then checkSum body else .error .delimiter

/-- Accepts a frame that starts with the header. -/
def checkHeader (header body : Bytes) : Outcome Unit :=
  if header.isPrefixOf body then .ok () else .error (.header header (body.take header.length))

/-- Accepts the end code zero. -/
def checkEndCode (body : Bytes) : Outcome Unit := do
  let code ← body.hexField 5 2
  if code.toUInt8 = 0 then .ok () else .error (.endCode code.toUInt8)

/-- Checks a reply of the given kind: length, delimiters, header, check field and, in an
acknowledgement, the end code. -/
def checkReply (kind : ReplyKind) (frame : Bytes) : Outcome Unit := do
  let body := frame.withoutCr
  if body.length < kind.minLength then throw (.tooShort kind.minLength body.length)
  unless isDelimited body do throw .delimiter
  checkHeader kind.header body
  checkSum body
  match kind with
  | .status => pure ()
  | .commandAck => checkEndCode body

/-- Checks a command: length, header with word address, delimiters and check field. -/
def checkCommand (frame : Bytes) : Outcome Unit := do
  let body := frame.withoutCr
  if body.length < commandLength then throw (.tooShort commandLength body.length)
  checkHeader (commandHeader ++ commandAddress) body
  checkBody body

/-- What the host sends. -/
inductive RequestKind
  | status
  | command
  deriving DecidableEq, Repr

/-- Tells the kind of a request and checks it. -/
def checkRequest (frame : Bytes) : Outcome RequestKind := do
  let body := frame.withoutCr
  if body.length < 6 then throw (.tooShort statusRequestLength body.length)
  if commandHeader.isPrefixOf body then
    checkCommand frame
    return .command
  checkHeader statusHeader body
  if body.length ≠ statusRequestLength then throw (.tooShort statusRequestLength body.length)
  checkBody body
  return .status

@[simp] theorem length_commandAck (endCode : UInt8) : (commandAck endCode).length = 11 := by
  simp [commandAck, commandHeader, Bytes.ascii]

end DomeLink.Frame
