import DomeLink.Proofs.Flags
import DomeLink.Proofs.Simulator

/-!
# What the switches of the simulator affect

A simulator is used by deeds in any order (`Deed`): frames are sent to it, its hardware changes, its
switches and the size of its chunks are set, and its replies have a reader or have none.

Switches and readers are nothing to what it does with a frame (`receive_unspoiled`), so the
hardware, the count of requests and the commands come out as if only the frames and the changes of
the hardware had been there (`unspoiled_run`).

A command sets the hardware to what it says, so it does nothing when it is sent again:
`Command.apply_apply`.
-/

namespace DomeLink

/-! ## Repeated commands -/

namespace Flags

variable {t : FlagTable}

theorem insert_insert_self (x m : Flags t) : (x.insert m).insert m = x.insert m :=
  insert_eq_self (has_insert_self x m)

theorem assign_assign_self (x m : Flags t) (on : Bool) :
    (x.assign m on).assign m on = x.assign m on := by
  cases on with
  | false => exact erase_erase_of_has (has_self m) x
  | true => exact insert_insert_self x m

end Flags

theorem WheelCommand.apply_apply (c : WheelCommand) (target : UInt8) (wheel : WheelStatus × UInt8) :
    c.apply target (c.apply target wheel) = c.apply target wheel := by
  unfold WheelCommand.apply
  cases c.meets (WheelCommand.init.insert WheelCommand.reset) with
  | true => cases c.has WheelCommand.go <;> rfl
  | false =>
    cases c.has WheelCommand.go with
    | true => exact Prod.ext (Flags.insert_insert_self wheel.1 WheelStatus.centered) rfl
    | false => rfl

theorem FocusCommand.apply_apply (c : FocusCommand) (focus : FocusStatus) :
    c.apply (c.apply focus) = c.apply focus := by
  unfold FocusCommand.apply
  cases c.has FocusCommand.reset with
  | true => rfl
  | false => exact Flags.assign_assign_self focus _ _

/-- **A command that is carried out again changes nothing.** -/
theorem Command.apply_apply (c : Command) (s : Status) : c.apply (c.apply s) = c.apply s := by
  have haperture := c.aperture.apply_apply c.apertureSlot (s.aperture, s.apertureSlot)
  have hfilter := c.filter.apply_apply c.filterSlot (s.filter, s.filterSlot)
  have hfocus := c.focus.apply_apply s.focus
  have hopened := Flags.assign_assign_self s.instrumentShutter InstrumentShutterStatus.opened
    (c.misc.has MiscCommand.instrumentShutterOpen)
  simp only [apply, haperture, hfilter, hfocus, hopened]
  congr 1
  all_goals grind

/-! ## Chunks -/

namespace Bytes

/-- No chunk is empty, and none is longer than it may be. -/
theorem length_of_mem_chunks {size : Nat} {bs chunk : Bytes} (h : chunk ∈ chunks size bs) :
    chunk ≠ [] ∧ chunk.length ≤ max size 1 := by
  fun_induction chunks size bs with
  | case1 => cases h
  | case2 bs hbs ih =>
    rcases List.mem_cons.1 h with rfl | h
    · refine ⟨?_, List.length_take_le ..⟩
      rw [Ne, List.take_eq_nil_iff, not_or]
      exact ⟨by omega, hbs⟩
    · exact ih h

end Bytes

namespace Simulator

/-! ## Frames and switches -/

/-- The simulator refuses the frame: it is no request, or a command that cannot be read. -/
def Refuses (frame : Bytes) : Prop :=
  (∃ fault, Frame.checkRequest frame = .error fault) ∨
    Frame.checkRequest frame ≠ .ok .status ∧ ∃ fault, Command.decode frame = .error fault

/-- A refused frame changes nothing and has no reply. -/
theorem receive_of_refuses {frame : Bytes} (h : Refuses frame) (p : Simulator) :
    p.receive frame = (p, none) := by
  unfold receive
  rcases h with ⟨fault, hcheck⟩ | ⟨hstatus, fault, hdecode⟩
  · rw [hcheck]
  · split
    · rename_i hcheck
      exact absurd hcheck hstatus
    · rw [hdecode]
    · rfl

/-- The simulator with its switches as they are at first. -/
def unspoiled (p : Simulator) : Simulator :=
  { status := p.status, requests := p.requests, commands := p.commands }

/-- **What becomes of a frame has nothing to do with the switches**, and does not touch them. -/
theorem receive_unspoiled (p : Simulator) (frame : Bytes) :
    p.unspoiled.receive frame = ((p.receive frame).1.unspoiled, (p.receive frame).2) := by
  unfold receive
  cases Frame.checkRequest frame with
  | error _ => rfl
  | ok kind =>
    cases kind with
    | status => rfl
    | command => cases Command.decode frame <;> rfl

/-! ## Everything that is done to a simulator -/

/-- What can be done to a simulator. -/
inductive Deed
  /-- A frame is sent to it. -/
  | transmit (frame : Bytes)
  /-- The hardware changes. -/
  | change (f : Status → Status)
  | setSilent (on : Bool)
  | setCorrupt (on : Bool)
  | setChunk (size : Nat)
  /-- Somebody reads the replies, or nobody does any more. -/
  | listen (on : Bool)

/-- The deed is a frame or a change of the hardware, and not a switch. -/
def Deed.isInput : Deed → Bool
  | .transmit _ | .change _ => true
  | _ => false

/-- A simulator with its reader. -/
structure Bench where
  simulator : Simulator
  /-- Somebody reads the replies. -/
  listening : Bool := true

/-- One more deed. -/
def Bench.perform (b : Bench) : Deed → Bench
  | .transmit frame => { b with simulator := (b.simulator.transmit b.listening frame).1 }
  | .change f => { b with simulator.status := f b.simulator.status }
  | .setSilent on => { b with simulator.silent := on }
  | .setCorrupt on => { b with simulator.corrupt := on }
  | .setChunk size => { b with simulator := b.simulator.setChunk size }
  | .listen on => { b with listening := on }

/-- What becomes of a simulator with the given hardware. -/
def run (s : Status) (deeds : List Deed) : Bench :=
  deeds.foldl Bench.perform { simulator := { status := s } }

theorem transmit_eq (p : Simulator) (listening : Bool) (frame : Bytes) :
    p.transmit listening frame =
      ((p.receive frame).1,
        if listening ∨ (p.receive frame).1.replyChunks (p.receive frame).2 = [] then
          .ok ((p.receive frame).1.replyChunks (p.receive frame).2)
        else .error .replyChannelClosed) := by
  unfold transmit
  obtain ⟨after, reply⟩ := p.receive frame
  dsimp only
  cases after.replyChunks reply with
  | nil => simp
  | cons chunk chunks => cases listening <;> simp

/-- **A deed that is no input does nothing** but to the switches and the reader. -/
theorem unspoiled_perform_of_not_input (b : Bench) {d : Deed} (h : d.isInput = false) :
    (b.perform d).simulator.unspoiled = b.simulator.unspoiled := by
  cases d with
  | transmit | change => cases h
  | setSilent | setCorrupt | setChunk | listen => rfl

/-- An input does the same to two simulators that differ in their switches only. -/
theorem unspoiled_perform {b b' : Bench} (h : b.simulator.unspoiled = b'.simulator.unspoiled)
    (d : Deed) (hd : d.isInput = true) :
    (b.perform d).simulator.unspoiled = (b'.perform d).simulator.unspoiled := by
  cases d with
  | transmit frame =>
    simp only [Bench.perform, transmit_eq]
    have hreceive := congrArg (fun p : Simulator => (p.receive frame).1) h
    simpa only [receive_unspoiled] using hreceive
  | change f =>
    exact congrArg (fun p : Simulator => { p with status := f p.status }) h
  | setSilent | setCorrupt | setChunk | listen => cases hd

/-- **The hardware, the count of requests and the commands** are what they are without any switch
being touched, and with somebody who reads the replies. -/
theorem unspoiled_run (s : Status) (deeds : List Deed) :
    (run s deeds).simulator.unspoiled =
      (run s (deeds.filter Deed.isInput)).simulator.unspoiled := by
  suffices hall : ∀ b b' : Bench, b.simulator.unspoiled = b'.simulator.unspoiled →
      (deeds.foldl Bench.perform b).simulator.unspoiled =
        ((deeds.filter Deed.isInput).foldl Bench.perform b').simulator.unspoiled from
    hall _ _ rfl
  induction deeds with
  | nil => exact fun b b' h => h
  | cons d deeds ih =>
    intro b b' h
    cases hd : d.isInput with
    | true =>
      rw [List.filter_cons_of_pos hd]
      exact ih _ _ (unspoiled_perform h d hd)
    | false =>
      rw [List.filter_cons_of_neg (Bool.eq_false_iff.1 hd)]
      exact ih _ _ ((unspoiled_perform_of_not_input b hd).trans h)

theorem one_le_chunk_perform {b : Bench} (h : 1 ≤ b.simulator.chunk) (d : Deed) :
    1 ≤ (b.perform d).simulator.chunk := by
  cases d with
  | transmit frame =>
    simp only [Bench.perform, transmit_eq, chunk_receive]
    exact h
  | setChunk size => exact Nat.le_max_right size 1
  | change | setSilent | setCorrupt | listen => exact h

theorem one_le_chunk_run (s : Status) (deeds : List Deed) : 1 ≤ (run s deeds).simulator.chunk := by
  suffices hall : ∀ b : Bench, 1 ≤ b.simulator.chunk →
      1 ≤ (deeds.foldl Bench.perform b).simulator.chunk from
    hall _ (Nat.le_add_left 1 15)
  induction deeds with
  | nil => exact fun b h => h
  | cons d deeds ih => exact fun b h => ih _ (one_le_chunk_perform h d)

/-! ## The laws of a simulator -/

theorem unspoiled_eq_iff {p q : Simulator} :
    p.unspoiled = q.unspoiled ↔
      p.status = q.status ∧ p.requests = q.requests ∧ p.commands = q.commands := by
  simp [unspoiled]

/-- **The chunks of a reply.** -/
theorem replyChunks_some {p : Simulator} (h : 1 ≤ p.chunk) (reply : Bytes) :
    (∀ chunk ∈ p.replyChunks (some reply), chunk ≠ [] ∧ chunk.length ≤ p.chunk) ∧
      (p.replyChunks (some reply)).flatten =
        if p.silent then [] else if p.corrupt then spoil reply else reply := by
  rw [replyChunks, Option.bind_some, switched]
  cases p.silent with
  | true => exact ⟨nofun, rfl⟩
  | false =>
    refine ⟨fun chunk hmem => ?_, Bytes.flatten_chunks _ _⟩
    rw [← Nat.max_eq_left h]
    exact Bytes.length_of_mem_chunks hmem

/-- The hardware is as it was after a frame that is sent again. -/
theorem status_receive_receive (p : Simulator) (frame : Bytes) :
    ((p.receive frame).1.receive frame).1.status = (p.receive frame).1.status := by
  unfold receive
  cases Frame.checkRequest frame with
  | error _ => rfl
  | ok kind =>
    cases kind with
    | status => rfl
    | command =>
      cases Command.decode frame with
      | error _ => rfl
      | ok c => exact c.apply_apply p.status

/-- **What a simulator keeps to**, beside one that has had the same frames and changes of the
hardware, with its switches left alone and somebody to read its replies. -/
structure Lawful (p plain : Simulator) : Prop where
  status : p.status = plain.status
  requests : p.requests = plain.requests
  commands : p.commands = plain.commands
  /-- A refused frame changes nothing at all and gets no reply. -/
  refused : ∀ frame, Refuses frame → ∀ listening, p.transmit listening frame = (p, .ok [])
  /-- The reply to any other frame comes in chunks that are not empty and not longer than they may
  be. Together they are the reply, with another check field if the simulator is corrupt, and
  nothing if it is silent. -/
  chunks : ∀ frame reply, (p.receive frame).2 = some reply →
    ∃ chunks, (p.transmit true frame).2 = .ok chunks ∧
      (∀ chunk ∈ chunks, chunk ≠ [] ∧ chunk.length ≤ p.chunk) ∧
      chunks.flatten = if p.silent then [] else if p.corrupt then spoil reply else reply
  /-- A frame that is sent again does not touch the hardware. -/
  resent : ∀ frame, ((p.receive frame).1.receive frame).1.status = (p.receive frame).1.status

/-- **Switches affect replies only**, whatever is done to a simulator, **and a command that is
carried out again does nothing.** -/
theorem lawful_and_idempotent :
    (∀ (s : Status) (deeds : List Deed),
      Lawful (run s deeds).simulator (run s (deeds.filter Deed.isInput)).simulator) ∧
    ∀ (c : Command) (s : Status), c.apply (c.apply s) = c.apply s := by
  refine ⟨fun s deeds => ?_, Command.apply_apply⟩
  obtain ⟨hstatus, hrequests, hcommands⟩ := unspoiled_eq_iff.1 (unspoiled_run s deeds)
  have hchunk := one_le_chunk_run s deeds
  generalize (run s deeds).simulator = p at *
  refine ⟨hstatus, hrequests, hcommands, ?refused, ?chunks, status_receive_receive p⟩
  case refused =>
    intro frame h listening
    rw [transmit_eq, receive_of_refuses h]
    simp [replyChunks]
  case chunks =>
    intro frame reply hreply
    rw [← chunk_receive p frame] at hchunk
    have hchunks := replyChunks_some hchunk reply
    obtain ⟨hsilent, hcorrupt⟩ := switches_receive p frame
    rw [chunk_receive, hsilent, hcorrupt] at hchunks
    rw [transmit_eq, hreply]
    refine ⟨_, ?_, hchunks⟩
    simp

end Simulator

end DomeLink
