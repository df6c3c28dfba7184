import DomeLink.Capture
import DomeLink.Proofs.Machine.Assembler
import DomeLink.Proofs.Machine.Decode
import DomeLink.Proofs.Machine.Encode
import DomeLink.Proofs.Wire.History
import DomeLink.Simulator

/-!
# No bytes trap the machine

What is left of the machine: it says what a frame of a capture is (`classify`), and it is the
simulated controller (`transmit`), which counts the requests that it gets, spoils replies and cuts
them into chunks.

* `Untrapped` says of bytes that whatever takes them comes to an end without a trap: every check and
  reader, the assembler with any frame in progress, captures, and the simulated controller with any
  hardware.
* `untrapped`: all bytes that fit in memory are so, and every status and command is written.
* `transmitAll_eq`: a simulated controller takes any frames one after the other, fewer than there
  are numbers for its count of requests.
-/

namespace DomeLink.Machine

variable {ε α : Type} {frame : Bytes}

/-! ## Captures -/

/-- A value as a record, or the frame as a rejected one. -/
def recordOf (frame : Bytes) (record : α → CaptureRecord) (m : Run Fault α) :
    Run ε CaptureRecord := do
  match ← attempt m with
  | .ok a => return record a
  | .error fault => return .rejected frame fault

/-- Says what a frame is. -/
def classify (frame : Bytes) : Run ε CaptureRecord :=
  if (Frame.statusHeader ++ Status.successCode).isPrefixOf frame &&
      Capture.shortLength < frame.length then
    recordOf frame .status (decodeStatus frame)
  else if Frame.statusHeader.isPrefixOf frame then
    recordOf frame (fun _ => .statusRequest) (checkRequest frame)
  else if Frame.commandHeader.isPrefixOf frame && Capture.shortLength < frame.length then
    recordOf frame .command (decodeCommand frame)
  else recordOf frame (fun _ => .ack) (checkReply .commandAck frame)

theorem recordOf_eq {m : Run Fault α} {x : Outcome α} (h : Computes m x)
    (record : α → CaptureRecord) :
    (recordOf frame record m : Run ε _) = .ok (Capture.recordOf frame record x) := by
  rw [recordOf, h.attempt, ok_bind]
  cases x <;> rfl

/-- **Any bytes are classified without a trap.** -/
theorem classify_eq (h : frame.length < sizes) :
    (classify frame : Run ε _) = .ok (Capture.classify frame) := by
  unfold classify Capture.classify
  split
  · exact recordOf_eq (computes_decodeStatus h) _
  · split
    · exact recordOf_eq (computes_checkRequest h) _
    · split
      · exact recordOf_eq (computes_decodeCommand h) _
      · exact recordOf_eq (computes_checkReply h .commandAck) _

/-! ## The simulated controller -/

/-- The simulator after a frame, and the reply that an unspoiled one sends. -/
def receive (p : Simulator) (frame : Bytes) : Run ε (Simulator × Option Bytes) := do
  match ← attempt (checkRequest frame) with
  | .ok .status => do
    let requests ← addSize p.requests 1
    let reply ← encodeStatus p.status
    return ({ p with requests }, some reply)
  | .ok .command => do
    match ← attempt (decodeCommand frame) with
    | .ok c => do
      let reply ← encodeAck 0
      return ({ p with status := c.apply p.status, commands := p.commands ++ [c] }, some reply)
    | .error _ => return (p, none)
  | .error _ => return (p, none)

/-- The bytes with another digit in the check field. -/
def spoil (reply : Bytes) : Run ε Bytes := do
  let index ← subSize reply.length 4
  let b ← byteOf reply index
  setByte reply index (if b = '0'.toUInt8 then '1'.toUInt8 else '0'.toUInt8)

/-- The reply as the switches leave it. -/
def switched (p : Simulator) (reply : Bytes) : Run ε (Option Bytes) :=
  if p.silent then return none
  else if p.corrupt then some <$> spoil reply
  else return some reply

/-- The bytes cut into pieces of at most `size` bytes. -/
def chunks (size : Nat) (bs : Bytes) : Run ε (List Bytes) :=
  if size = 0 then trap .emptyChunk else .ok (bs.chunks size)

/-- The chunks in which the simulator answers. -/
def replyChunks (p : Simulator) : Option Bytes → Run ε (List Bytes)
  | none => .ok []
  | some reply => do
    match ← switched p reply with
    | none => return []
    | some reply => chunks p.chunk reply

/-- Takes a frame and answers it, if somebody listens. -/
def transmit (p : Simulator) (listening : Bool) (frame : Bytes) :
    Run ε (Simulator × Except TransportFault (List Bytes)) := do
  let (after, reply) ← receive p frame
  match ← replyChunks after reply with
  | [] => return (after, .ok [])
  | chunks => return (after, if listening then .ok chunks else .error .replyChannelClosed)

variable {p : Simulator}

theorem receive_eq (h : frame.length < sizes) (hrequests : p.requests + 1 < sizes) :
    (receive p frame : Run ε _) = .ok (p.receive frame) := by
  rw [receive, (computes_checkRequest h).attempt, ok_bind, Simulator.receive]
  rcases Frame.checkRequest frame with fault | kind
  · rfl
  · cases kind with
    | status =>
      simp only [addSize_eq hrequests, encodeStatus_eq, ok_bind]
      rfl
    | command =>
      simp only [(computes_decodeCommand h).attempt, encodeAck_eq, ok_bind]
      cases Command.decode frame <;> rfl

/-- A reply is long enough to have a check field. -/
theorem length_of_receive {reply : Bytes} (h : (p.receive frame).2 = some reply) :
    4 ≤ reply.length := by
  unfold Simulator.receive at h
  split at h
  · cases h
    rw [Status.length_encode]
    decide
  · split at h
    · cases h
      rw [Frame.length_commandAck]
      decide
    · cases h
  · cases h

theorem spoil_eq {reply : Bytes} (h : 4 ≤ reply.length) :
    (spoil reply : Run ε Bytes) = .ok (Simulator.spoil reply) := by
  have hindex : reply.length - 4 < reply.length := by omega
  have hbyte : reply[reply.length - 4]? = some reply[reply.length - 4] :=
    List.getElem?_eq_getElem hindex
  rw [spoil, subSize_eq h, ok_bind, byteOf_eq hbyte, ok_bind, setByte_eq hindex, Simulator.spoil,
    List.modify_eq_take_cons_drop hindex, List.set_eq_take_append_cons_drop, if_pos hindex]

theorem switched_eq {reply : Bytes} (h : 4 ≤ reply.length) :
    (switched p reply : Run ε _) = .ok (p.switched reply) := by
  rw [switched, Simulator.switched, spoil_eq h]
  cases p.silent <;> cases p.corrupt <;> rfl

theorem replyChunks_eq {reply : Option Bytes} (hchunk : 0 < p.chunk)
    (hreply : ∀ bs, reply = some bs → 4 ≤ bs.length) :
    (replyChunks p reply : Run ε _) = .ok (p.replyChunks reply) := by
  cases reply with
  | none => rfl
  | some reply =>
    rw [replyChunks, switched_eq (hreply reply rfl), ok_bind, Simulator.replyChunks,
      Option.bind_some]
    cases p.switched reply with
    | none => rfl
    | some bytes => exact if_neg (Nat.pos_iff_ne_zero.1 hchunk)

/-- **The simulated controller takes any bytes without a trap**, whatever its hardware, unless its
count of requests has reached its end. -/
theorem transmit_eq (h : frame.length < sizes) (hchunk : 0 < p.chunk)
    (hrequests : p.requests + 1 < sizes) (listening : Bool) :
    (transmit p listening frame : Run ε _) = .ok (p.transmit listening frame) := by
  have hchunk' : 0 < (p.receive frame).1.chunk := by rwa [Simulator.chunk_receive]
  rw [transmit, receive_eq h hrequests, ok_bind, Simulator.transmit]
  simp only [replyChunks_eq hchunk' fun _ => length_of_receive, ok_bind]
  cases (p.receive frame).1.replyChunks (p.receive frame).2 <;> rfl

theorem requests_receive_le (p : Simulator) (frame : Bytes) :
    (p.receive frame).1.requests ≤ p.requests + 1 := by
  unfold Simulator.receive
  split
  · exact Nat.le_refl _
  · split <;> exact Nat.le_succ _
  · exact Nat.le_succ _

/-- Takes frames one after the other, each with somebody who listens or not. -/
def transmitAll (p : Simulator) : List (Bool × Bytes) → Run ε Simulator
  | [] => .ok p
  | (listening, frame) :: frames => do
    let (after, _) ← transmit p listening frame
    transmitAll after frames

/-- **The simulated controller takes any frames**, one after the other, as long as they are fewer
than the numbers for its count of requests. -/
theorem transmitAll_eq {frames : List (Bool × Bytes)} (hchunk : 0 < p.chunk)
    (hframes : ∀ f ∈ frames, f.2.length < sizes) (hcount : p.requests + frames.length < sizes) :
    (transmitAll p frames : Run ε _) =
      .ok (frames.foldl (fun p f => (p.transmit f.1 f.2).1) p) := by
  induction frames generalizing p with
  | nil => rfl
  | cons f frames ih =>
    rw [List.length_cons] at hcount
    have hafter : (p.transmit f.1 f.2).1 = (p.receive f.2).1 := by
      simp only [Simulator.transmit]
      split <;> rfl
    have hrequests := requests_receive_le p f.2
    rw [transmitAll, transmit_eq (hframes f List.mem_cons_self) hchunk (by omega), ok_bind]
    show transmitAll (p.transmit f.1 f.2).1 frames =
      .ok (frames.foldl (fun p f => (p.transmit f.1 f.2).1) (p.transmit f.1 f.2).1)
    rw [hafter]
    exact ih (by rwa [Simulator.chunk_receive]) (fun f' hf' => hframes f' (List.mem_cons_of_mem _ hf'))
      (by omega)

/-! ## Everything together -/

/-- **Whatever takes the bytes comes to an end without a trap**, with what the definitions say.
Checks and readers have a value or refuse the bytes, and all else has a value. -/
structure Untrapped (f : Bytes) : Prop where
  checkReply : ∀ kind, Computes (checkReply kind f) (Frame.checkReply kind f)
  checkRequest : Computes (checkRequest f) (Frame.checkRequest f)
  checkCommand : Computes (checkCommand f) (Frame.checkCommand f)
  decodeStatus : Computes (decodeStatus f) (Status.decode f)
  decodeCommand : Computes (decodeCommand f) (Command.decode f)
  /-- Whatever the status is, and whatever the previous bytes are. -/
  applyChanges : ∀ s previous,
    Computes (applyChanges s previous f) (s.applyChanges previous f)
  fcsOffset : (fcsOffset f : Run Fault _) = .ok (Checksum.offset? f)
  storedAndComputed :
    (storedAndComputed f : Run Fault _) = .ok (Checksum.storedAndComputed? f)
  updateFcs : (updateFcs f : Run Fault _) = .ok (Checksum.update f)
  /-- Whatever the assembler has in its buffer, that and its capacity being in memory. -/
  push : ∀ a : Assembler, a.capacity < memory → a.buffer.length < memory →
    (push a 0 f : Run Fault _) = .ok ((a.push f).1, (a.push f).2, (a.push f).2.length)
  classify : (classify f : Run Fault _) = .ok (Capture.classify f)
  /-- Whatever the hardware, the switches and the size of the chunks are. -/
  transmit : ∀ (p : Simulator) (listening : Bool), 0 < p.chunk → p.requests + 1 < sizes →
    (transmit p listening f : Run Fault _) = .ok (p.transmit listening f)

/-- **No bytes trap the machine**: whatever they are, everything that takes them comes to an end
without a trap, and so does the writing of every status and every command. -/
theorem untrapped (f : Bytes) (h : f.length < memory) :
    Untrapped f ∧ (∀ s : Status, (encodeStatus s : Run Fault _) = .ok s.encode) ∧
      ∀ c : Command, (encodeCommand c : Run Fault _) = .ok c.encode := by
  have hsizes := memory_add_memory
  have hsize : f.length < sizes := by omega
  refine ⟨?_, encodeStatus_eq, encodeCommand_eq⟩
  exact {
    checkReply := computes_checkReply hsize
    checkRequest := computes_checkRequest hsize
    checkCommand := computes_checkCommand hsize
    decodeStatus := computes_decodeStatus hsize
    decodeCommand := computes_decodeCommand hsize
    applyChanges := computes_applyChanges hsize
    fcsOffset := fcsOffset_eq f
    storedAndComputed := storedAndComputed_eq hsize
    updateFcs := updateFcs_eq hsize
    push := fun a hcapacity hbuffer => by
      rw [push_eq hcapacity hbuffer h (by omega), Nat.zero_add, Assembler.completed_eq_length]
    classify := classify_eq hsize
    transmit := fun p listening hchunk hrequests => transmit_eq hsize hchunk hrequests listening }

/-- The shortest frame that there can be is delivered, refused as a reply, and not answered. -/
theorem untrapped_of_delimiters :
    [Bytes.start, Bytes.stop].length < memory ∧
      checkReply .status [Bytes.start, Bytes.stop] = refuse (.tooShort 78 2) ∧
      (push { capacity := 128 } 0 [Bytes.start, Bytes.stop] : Run Fault _) =
        .ok ({ capacity := 128 }, [[Bytes.start, Bytes.stop]], 1) ∧
      (transmit {} true [Bytes.start, Bytes.stop] : Run Fault _) = .ok ({}, .ok []) := by
  have hlen : [Bytes.start, Bytes.stop].length < memory := by decide
  obtain ⟨h, -, -⟩ := untrapped [Bytes.start, Bytes.stop] hlen
  refine ⟨hlen, (h.checkReply .status).eq, ?_, ?_⟩
  · rw [h.push { capacity := 128 } (by decide) (by decide)]
    have hpush : ({ capacity := 128 } : Assembler).push [Bytes.start, Bytes.stop] =
        ({ capacity := 128 }, [[Bytes.start, Bytes.stop]]) := by
      rw [push_of_idxOf? (e := 1) rfl, Assembler.push_of_not_mem (by decide)]
      rfl
    rw [hpush]
    rfl
  · rw [h.transmit {} true (by decide) (by decide)]
    rfl

end DomeLink.Machine
