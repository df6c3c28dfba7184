import DomeLink.Proofs.Command.RoundTrip
import DomeLink.Proofs.Status.RoundTrip
import DomeLink.Proofs.Wire.Verify

/-!
# The four languages of the line

A request and its reply start with the same header, and the checks of replies and commands ask only
for a least length. Still no frame passes for two of the four things that travel: status requests
are shorter than every status reply, and where a command has its word address, an acknowledgement
has its end code (`Language.Accepts.unique`).

So the two sides of the line cannot mistake what they hear for what they send: an echo of a host's
frame is refused as a reply, and a reply is refused as a request (`languages_disjoint`).
-/

namespace DomeLink.Frame

variable {frame body : Bytes}

/-! ## Languages -/

/-- What travels on the line. -/
inductive Language
  | statusReply
  | commandAck
  | statusRequest
  | command
  deriving DecidableEq, Repr

namespace Language

/-- The frame passes the check of the language. -/
def Accepts : Language → Bytes → Prop
  | statusReply, frame => checkReply .status frame = .ok ()
  | commandAck, frame => checkReply .commandAck frame = .ok ()
  | statusRequest, frame => checkRequest frame = .ok .status
  | command, frame => checkCommand frame = .ok ()

/-- The header of the language. -/
def header : Language → Bytes
  | statusReply | statusRequest => statusHeader
  | commandAck | command => commandHeader

variable {l l' : Language}

theorem Accepts.header (h : l.Accepts frame) : l.header <+: frame.withoutCr := by
  cases l with
  | statusReply => exact (checkReply_eq_ok_iff.1 h).2.2.1
  | commandAck => exact (checkReply_eq_ok_iff.1 h).2.2.1
  | statusRequest => exact (checkRequest_eq_status_iff.1 h).2.1
  | command => exact commandHeader_of_checkCommand h

theorem header_eq_of_accepts (h : l.Accepts frame) (h' : l'.Accepts frame) :
    l.header = l'.header := by
  have hlen : l.header.length = l'.header.length := by cases l <;> cases l' <;> rfl
  exact (List.prefix_of_prefix_length_le h.header h'.header (Nat.le_of_eq hlen)).eq_of_length hlen

/-- A status request has not the length of a status reply. -/
theorem not_statusRequest_of_statusReply (h : statusReply.Accepts frame) :
    ¬ statusRequest.Accepts frame := by
  intro h'
  have hlong := (checkReply_status_iff.1 h).1
  rw [(checkRequest_eq_status_iff.1 h').1] at hlong
  exact absurd hlong (by decide)

/-- Read as an end code, the word address of a command is not zero. -/
theorem checkEndCode_of_address (h : commandHeader ++ commandAddress <+: body) :
    checkEndCode body = .error (.endCode 1) := by
  obtain ⟨rest, rfl⟩ := h
  have hcode : (commandHeader ++ commandAddress).hexField 5 2 = .ok 1 := rfl
  rw [checkEndCode, Bytes.hexField_append (by decide), hcode]
  rfl

theorem not_command_of_commandAck (h : commandAck.Accepts frame) : ¬ command.Accepts frame := by
  intro h'
  have hcode := (checkReply_eq_ok_iff.1 h).2.2.2.2 rfl
  rw [checkEndCode_of_address (checkCommand_eq_ok_iff.1 h').2.1] at hcode
  cases hcode

/-- **No frame belongs to two languages.** -/
theorem Accepts.unique (h : l.Accepts frame) (h' : l'.Accepts frame) : l = l' := by
  have hheader := header_eq_of_accepts h h'
  cases l <;> cases l'
  case statusReply.statusRequest => exact absurd h' (not_statusRequest_of_statusReply h)
  case statusRequest.statusReply => exact absurd h (not_statusRequest_of_statusReply h')
  case commandAck.command => exact absurd h' (not_command_of_commandAck h)
  case command.commandAck => exact absurd h (not_command_of_commandAck h')
  all_goals first | rfl | exact absurd hheader (by decide)

/-- The carriage return does not matter. -/
theorem accepts_congr {frame' : Bytes} (h : frame.withoutCr = frame'.withoutCr) (l : Language) :
    l.Accepts frame ↔ l.Accepts frame' := by
  cases l with
  | statusReply | commandAck => rw [Accepts, Accepts, checkReply_congr h]
  | statusRequest =>
    rw [Accepts, Accepts, checkRequest_eq_status_iff, checkRequest_eq_status_iff, h]
  | command => rw [Accepts, Accepts, checkCommand_eq_ok_iff, checkCommand_eq_ok_iff, h]

end Language

/-! ## What is sent -/

/-- The frames that the host sends. -/
inductive FromHost : Bytes → Prop
  | statusRequest : FromHost Frame.statusRequest
  | command (c : Command) : FromHost c.encode

/-- The frames that a controller sends. -/
inductive FromController : Bytes → Prop
  | statusReply (s : Status) : FromController s.encode
  | commandAck (endCode : UInt8) : FromController (Frame.commandAck endCode)

theorem withoutCr_dropLast_terminate (content : Bytes) :
    Bytes.withoutCr (Checksum.terminate content).dropLast =
      Bytes.withoutCr (Checksum.terminate content) := by
  rw [Checksum.dropLast_terminate, Checksum.withoutCr_terminate, Checksum.withoutCr_close]

theorem FromHost.withoutCr_dropLast (h : FromHost frame) :
    Bytes.withoutCr frame.dropLast = frame.withoutCr := by
  cases h with
  | statusRequest => exact withoutCr_dropLast_terminate _
  | command c => exact withoutCr_dropLast_terminate _

theorem FromController.withoutCr_dropLast (h : FromController frame) :
    Bytes.withoutCr frame.dropLast = frame.withoutCr := by
  cases h with
  | statusReply s => exact withoutCr_dropLast_terminate _
  | commandAck endCode => exact withoutCr_dropLast_terminate _

/-- What the host sends are requests. -/
theorem FromHost.accepts (h : FromHost frame) :
    Language.statusRequest.Accepts frame ∨ Language.command.Accepts frame := by
  cases h with
  | statusRequest => exact .inl rfl
  | command c => exact .inr c.checkCommand_encode

theorem exists_request_of_accepts
    (h : Language.statusRequest.Accepts frame ∨ Language.command.Accepts frame) :
    ∃ kind, checkRequest frame = .ok kind :=
  h.elim (fun h => ⟨_, h⟩) fun h => ⟨_, checkRequest_eq_command_iff.2 h⟩

/-- A request is no reply. -/
theorem refused_of_accepts
    (h : Language.statusRequest.Accepts frame ∨ Language.command.Accepts frame) :
    Refused frame := by
  refine refused_of_ne fun kind hreply => ?_
  have haccepts : Language.statusReply.Accepts frame ∨ Language.commandAck.Accepts frame := by
    cases kind with
    | status => exact .inl hreply
    | commandAck => exact .inr hreply
  rcases haccepts with hl | hl <;> rcases h with hl' | hl' <;> cases hl.unique hl'

/-- What a controller sends is no request, an acknowledgement with another end code than zero
included. -/
theorem FromController.not_accepts (h : FromController frame) :
    ¬ Language.statusRequest.Accepts frame ∧ ¬ Language.command.Accepts frame := by
  cases h with
  | statusReply s =>
    have hreply : Language.statusReply.Accepts s.encode := s.checkReply_encode
    constructor <;> (intro h; cases hreply.unique h)
  | commandAck endCode =>
    have hlen : (Frame.commandAck endCode).withoutCr.length = 10 := by
      rw [Frame.commandAck, Checksum.withoutCr_terminate, Checksum.length_close,
        List.length_append, Digits.length_writeHex]
      rfl
    constructor
    · intro h
      have hshort := (checkRequest_eq_status_iff.1 h).1
      omega
    · intro h
      have hshort := (checkCommand_eq_ok_iff.1 h).1
      omega

theorem not_request_of_not_accepts
    (h : ¬ Language.statusRequest.Accepts frame ∧ ¬ Language.command.Accepts frame)
    (kind : RequestKind) : checkRequest frame ≠ .ok kind := by
  intro hrequest
  cases kind with
  | status => exact h.1 hrequest
  | command => exact h.2 (checkRequest_eq_command_iff.1 hrequest)

/-- **The languages never overlap**: no frame passes for two of them, and the check of requests
finds exactly the commands. So what the host sends is accepted as a request and, where it is
echoed, refused as a reply, and what a controller sends is refused as a request, all of it with a
carriage return or without. -/
theorem languages_disjoint :
    (∀ (frame : Bytes) (l l' : Language), l.Accepts frame → l'.Accepts frame → l = l') ∧
      (∀ frame, checkRequest frame = .ok .command ↔ checkCommand frame = .ok ()) ∧
      (∀ frame, FromHost frame →
        (∃ kind, checkRequest frame = .ok kind) ∧ Refused frame ∧ Refused frame.dropLast) ∧
      ∀ frame, FromController frame → ∀ kind,
        checkRequest frame ≠ .ok kind ∧ checkRequest frame.dropLast ≠ .ok kind := by
  refine ⟨fun frame l l' => Language.Accepts.unique, fun frame => checkRequest_eq_command_iff,
    fun frame h => ?_, fun frame h kind => ?_⟩
  · have hbare (l : Language) := Language.accepts_congr h.withoutCr_dropLast l
    refine ⟨exists_request_of_accepts h.accepts, refused_of_accepts h.accepts,
      refused_of_accepts ?_⟩
    rw [hbare, hbare]
    exact h.accepts
  · have hbare (l : Language) := Language.accepts_congr h.withoutCr_dropLast l
    refine ⟨not_request_of_not_accepts h.not_accepts kind,
      not_request_of_not_accepts ?_ kind⟩
    rw [hbare, hbare]
    exact h.not_accepts

/-- The acknowledgement of success belongs to its language alone; the status request is refused as
a reply, and an acknowledgement of failure as a command. -/
theorem languages_disjoint_of_sent :
    Language.commandAck.Accepts (commandAck 0) ∧ ¬ Language.command.Accepts (commandAck 0) ∧
      FromHost statusRequest ∧ Refused statusRequest ∧
      FromController (commandAck 0x13) ∧ checkRequest (commandAck 0x13) ≠ .ok .command := by
  have hack : Language.commandAck.Accepts (commandAck 0) := rfl
  have hno : ¬ Language.command.Accepts (commandAck 0) := by
    intro h
    cases languages_disjoint.1 _ _ _ hack h
  exact ⟨hack, hno, .statusRequest, (languages_disjoint.2.2.1 _ .statusRequest).2.1,
    .commandAck 0x13, (languages_disjoint.2.2.2 _ (.commandAck 0x13) .command).1⟩

end DomeLink.Frame
