import DomeLink.Proofs.Command.WellFormed
import DomeLink.Proofs.Session.Requests

/-!
# The commands that a session sends

`commandFrames` picks the command frames out of a list of actions. A property of commands that no
reply takes away is lost by an update alone (`Durable.transition`). So whatever arrives and whatever
the clients ask for, the command of a session is well-formed (`command_wellFormed`), and every
command frame on the line passes the check of the controller, carries the whole command, and asks no
mechanism for two things that exclude each other (`commands_on_the_line`).
-/

namespace DomeLink

/-- The frames that the actions send, in their order. -/
def Action.frames (actions : List Action) : List Bytes :=
  actions.filterMap fun
    | .transmit frame => some frame
    | _ => none

/-- The frame starts as a command does. -/
def Frame.isCommand (frame : Bytes) : Bool := commandHeader.isPrefixOf frame

/-- The command frames that the actions send, in their order. -/
def Action.commandFrames (actions : List Action) : List Bytes :=
  (frames actions).filter Frame.isCommand

theorem Action.mem_frames {actions : List Action} {frame : Bytes} :
    frame ∈ frames actions ↔ .transmit frame ∈ actions := by
  unfold frames
  rw [List.mem_filterMap]
  constructor
  · rintro ⟨a, ha, h⟩
    cases a with
    | transmit f =>
      cases h
      exact ha
    | _ => cases h
  · intro h
    exact ⟨_, h, rfl⟩

theorem Action.mem_commandFrames {actions : List Action} {frame : Bytes} :
    frame ∈ commandFrames actions ↔ .transmit frame ∈ actions ∧ Frame.isCommand frame = true := by
  rw [commandFrames, List.mem_filter, mem_frames]

theorem Action.frames_append (as bs : List Action) : frames (as ++ bs) = frames as ++ frames bs :=
  List.filterMap_append

theorem Action.commandFrames_append (as bs : List Action) :
    commandFrames (as ++ bs) = commandFrames as ++ commandFrames bs := by
  rw [commandFrames, frames_append, List.filter_append]
  rfl

theorem Action.frames_eq_nil {as : List Action} (h : sends as = 0) : frames as = [] :=
  List.eq_nil_iff_forall_not_mem.2 fun _ hmem =>
    Session.not_mem_of_sends_eq_zero h (mem_frames.1 hmem)

theorem Action.commandFrames_eq_nil {as : List Action} (h : sends as = 0) :
    commandFrames as = [] := by
  rw [commandFrames, frames_eq_nil h, List.filter_nil]

theorem Frame.not_isCommand_statusRequest : Frame.isCommand Frame.statusRequest = false := by decide

theorem Command.isCommand_encode (c : Command) : Frame.isCommand c.encode = true := by
  have hprefix : Frame.commandHeader <+: c.encode := by
    rw [encode, Checksum.terminate]
    simp only [List.append_assoc]
    exact List.prefix_append _ _
  exact List.isPrefixOf_iff_prefix.2 hprefix

namespace Session

theorem commandFrames_sendCommand (s : Session) :
    Action.commandFrames s.sendCommand.2 = [s.command.encode] := by
  show List.filter Frame.isCommand [s.command.encode] = _
  rw [List.filter_cons_of_pos s.command.isCommand_encode, List.filter_nil]

theorem commandFrames_requestStatus (s : Session) (awaiting : SessionState) :
    Action.commandFrames (s.requestStatus awaiting).2 = [] := by
  show List.filter Frame.isCommand [Frame.statusRequest] = _
  rw [List.filter_cons_of_neg (by rw [Frame.not_isCommand_statusRequest]; decide), List.filter_nil]

theorem resolve_of_pending {s : Session} (h : s.commandPending = true) :
    s.resolve = s.sendCommand := if_pos h

theorem resolve_of_not_pending {s : Session} (h : s.commandPending = false) :
    s.resolve = ({ s with state := .idle }, []) := by
  unfold resolve
  rw [h]
  rfl

variable {s : Session} {i : SessionInput} {r : Step}

/-! ## What happens to the command -/

/-- **No reply takes the property away** from a command, and neither does sending it. -/
structure Durable (P : Command → Prop) : Prop where
  seed : ∀ c frame status, Status.decode frame = .ok status → P c → P (c.seed status)
  confirm : ∀ c status, P c → P (c.confirm status)
  clearOneShots : ∀ c bits, P c → P (c.clearOneShots bits)
  forgetRequested : ∀ c, P c → P c.forgetRequested

section

variable {P : Command → Prop}

theorem Durable.settles {t : Session} (hP : Durable P) (ht : s.Settles i t) (h : P s.command) :
    P t.command := by
  cases ht with
  | seeded _ hf => exact hP.seed _ _ _ hf h
  | refreshed => exact hP.confirm _ _ h
  | acknowledged => exact hP.clearOneShots _ _ h
  | badStatus | badAck | timeout | transmitError => exact h

theorem Durable.resolve {s : Session} (hP : Durable P) (h : P s.command) :
    P s.resolve.1.command := by
  unfold Session.resolve
  split
  · exact hP.forgetRequested _ h
  · exact h

/-- **What is durable is lost by an update alone.** -/
theorem Durable.transition (hP : Durable P) (htr : Transition s i r)
    (hchange : ∀ ms c, i = .update ms → s.command.changeAll ms = .ok c → P c)
    (h : P s.command) : P r.1.command := by
  cases htr with
  | ignore | retry | poll | pollLater | beatLater | close => exact h
  | beat => exact hP.forgetRequested _ h
  | update hms => exact hP.forgetRequested _ (hchange _ _ rfl hms)
  | updateLater hms | updateClosed hms => exact hchange _ _ rfl hms
  | finish ht => exact hP.resolve (hP.settles ht h)

end

/-! ## The command stays well-formed -/

theorem durable_wellFormed : Durable Command.WellFormed where
  seed := fun _ _ _ hf h => Command.seed_wellFormed h (Status.decode_inRange hf)
  confirm := fun _ status h => Command.confirm_wellFormed status h
  clearOneShots := fun _ bits h => Command.clearOneShots_wellFormed bits h
  forgetRequested := fun _ h => Command.forgetRequested_wellFormed h

theorem Transition.wellFormed (h : Transition s i r) (hs : s.command.WellFormed) :
    r.1.command.WellFormed :=
  durable_wellFormed.transition h (fun _ _ _ hms => Command.changeAll_wellFormed hms hs) hs

/-- **The command of a session is well-formed**, after any inputs. -/
theorem command_wellFormed (timing : Timing) (inputs : List SessionInput) :
    (reached timing inputs).command.WellFormed :=
  reached_induction (P := fun s => s.command.WellFormed) Command.wellFormed_default
    (fun _ _ _ h => h.wellFormed) inputs

/-! ## Command frames -/

/-- The frame is that of a well-formed command, and carries all of it. -/
structure Carries (frame : Bytes) (c : Command) : Prop where
  accepted : Frame.checkCommand frame = .ok ()
  decoded : Command.decode frame = .ok c.wire
  wellFormed : c.WellFormed

/-- A command frame that a step sends is that of the command after the step. -/
theorem Asks.eq_encode {timing : Timing} {before : List Action} {frame : Bytes}
    (h : Asks timing r before frame) (hc : Frame.isCommand frame = true) :
    r.1.state = .awaitCommandAck ∧ frame = r.1.command.encode := by
  have hne (hstatus : r.1.state = .awaitInitialStatus ∨ r.1.state = .awaitStatus) : False := by
    rw [h.status hstatus, Frame.not_isCommand_statusRequest] at hc
    cases hc
  have hawait := h.awaiting
  cases hs : r.1.state with
  | awaitCommandAck => exact ⟨rfl, h.command hs⟩
  | awaitInitialStatus => exact (hne (.inl hs)).elim
  | awaitStatus => exact (hne (.inr hs)).elim
  | idle | closed =>
    rw [hs] at hawait
    cases hawait

theorem Transition.eq_encode (h : Transition s i r) {frame : Bytes}
    (hf : frame ∈ Action.commandFrames r.2) : frame = r.1.command.encode := by
  obtain ⟨hmem, hc⟩ := Action.mem_commandFrames.1 hf
  rcases h.asks with hquiet | ⟨before, other, hasks, _⟩
  · exact absurd hmem (not_mem_of_sends_eq_zero hquiet)
  · rw [← hasks.eq_of_mem hmem] at hasks
    exact (hasks.eq_encode hc).2

theorem Transition.carries (h : Transition s i r) (hs : s.command.WellFormed) {frame : Bytes}
    (hf : frame ∈ Action.commandFrames r.2) : Carries frame r.1.command := by
  have hwf := h.wellFormed hs
  rw [h.eq_encode hf]
  exact ⟨Command.checkCommand_encode _, Command.decode_encode_of_wellFormed hwf, hwf⟩

/-- **Every command frame on the line is sound.** The opening sends none; after any inputs, a
command frame that one more input sends passes the check of the controller and carries the command
that the session then has, whose quantities are within their limits, whose flag words have named
flags only, and which asks no mechanism for two things that exclude each other. -/
theorem commands_on_the_line (timing : Timing) :
    Action.commandFrames (opened timing).2 = [] ∧
      ∀ inputs i, ∀ frame ∈ Action.commandFrames ((reached timing inputs).step i).2,
        Carries frame ((reached timing inputs).step i).1.command := by
  refine ⟨rfl, fun inputs i frame hframe => ?_⟩
  have htr := (reached timing inputs).step_transition i
  exact htr.carries (command_wellFormed timing inputs) hframe

end Session

end DomeLink
