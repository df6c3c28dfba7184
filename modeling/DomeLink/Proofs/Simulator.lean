import DomeLink.Connection.Peer
import DomeLink.Proofs.Command.RoundTrip
import DomeLink.Proofs.Status.RoundTrip
import DomeLink.Proofs.Wire.Reader

/-!
# What the simulated controller answers

The simulator takes every frame (`send_eq`). It answers a status request with its status and a
command with an acknowledgement, unless it is silent, and a command changes the hardware as it says.

A reply is a transmission (`IsTransmission`): a fresh assembler that is given one in any chunks
delivers it, less its carriage return, and is left with no frame in progress
(`pushAll_transmission`). So a reply is delivered whatever the size of the chunks. A corrupt
simulator's reply is delivered too, and refused: `pushAll_replyChunks`, `isTransmission_spoil`.
-/

namespace DomeLink

open Bytes (start stop cr)

/-- The bytes are `@`, what is inside, `*` and a carriage return, with no other delimiter. -/
structure Bytes.IsTransmission (bytes inner : Bytes) : Prop where
  eq : bytes = start :: inner ++ [stop, cr]
  start_not_mem : start ∉ inner
  stop_not_mem : stop ∉ inner

open Bytes (IsTransmission)

namespace Assembler

theorem separated_of_flatten {chunks : List Bytes} (h : chunks.flatten.count start ≤ 1) :
    ∀ chunk ∈ chunks, Separated chunk := fun _ hmem =>
  separated_of_count_le (Nat.le_trans ((List.sublist_flatten_of_mem hmem).count_le start) h)

/-- **A transmission is delivered**, however it is cut, and leaves no frame in progress. -/
theorem pushAll_transmission {bytes inner : Bytes} (h : IsTransmission bytes inner)
    {capacity : Nat} (hfits : inner.length + 2 ≤ capacity) {chunks : List Bytes}
    (hchunks : chunks.flatten = bytes) :
    pushAll { capacity } chunks = ({ capacity }, [bytes.dropLast]) := by
  obtain ⟨rfl, hstart, hstop⟩ := h
  have hcount : (start :: inner ++ [stop, cr]).count start ≤ 1 := by
    rw [List.cons_append, List.count_cons_self, List.count_append, List.count_eq_zero.2 hstart]
    decide
  have hwhole : pushAll { capacity } chunks =
      pushAll { capacity } [start :: (inner ++ [stop, cr])] := by
    rw [pushAll_eq_scan (wellFormed_fresh capacity) (separated_of_flatten (hchunks ▸ hcount)),
      pushAll_eq_scan (wellFormed_fresh capacity) (separated_of_flatten (by simpa using hcount)),
      hchunks]
    simp
  have hcut : inner ++ [stop, cr] ++ [].flatten = inner ++ stop :: [cr] := by simp
  have hroom : inner.length + 2 ≤ ({ capacity } : Assembler).capacity := hfits
  obtain ⟨rest, hrest, hpush⟩ := pushAll_start_cons hstart hstop hroom hcut
  have htail : pushAll { capacity } rest = ({ capacity }, []) := by
    rw [pushAll_eq_scan (wellFormed_fresh capacity)
      (separated_of_flatten (by rw [hrest]; decide)), hrest]
    rfl
  have hlast : (start :: inner ++ [stop, cr]).dropLast = start :: inner ++ [stop] := by
    have hconcat : start :: inner ++ [stop, cr] = (start :: inner ++ [stop]) ++ [cr] := by simp
    rw [hconcat, List.dropLast_concat]
  rw [hwhole, hpush, htail, hlast]

end Assembler

/-! ## Replies -/

/-- What is closed and sent is a transmission, if there is no delimiter in it. -/
theorem Checksum.isTransmission_terminate {rest : Bytes} (hstart : start ∉ rest)
    (hstop : stop ∉ rest) :
    IsTransmission (terminate (start :: rest)) (rest ++ chars (compute (start :: rest))) := by
  have hchars := all_isFieldDigit_chars (compute (start :: rest))
  refine ⟨rfl, ?_, ?_⟩
  · simp [hstart, not_mem_of_isFieldDigit hchars (b := start) (by decide)]
  · simp [hstop, not_mem_of_isFieldDigit hchars (b := stop) (by decide)]

/-- The bytes are a reply of the controller; its length is that of a status reply at most. -/
def IsReply (bytes : Bytes) : Prop :=
  ∃ rest, bytes = Checksum.terminate (start :: rest) ∧ start ∉ rest ∧ stop ∉ rest ∧
    rest.length ≤ 74

theorem Status.isReply_encode (s : Status) : IsReply s.encode :=
  ⟨s.replyRest, rfl, s.not_mem_replyRest (by decide) (by decide),
    s.not_mem_replyRest (by decide) (by decide), Nat.le_of_eq s.length_replyRest⟩

theorem Frame.isReply_commandAck : IsReply (commandAck 0) :=
  ⟨commandHeader.tail ++ Digits.writeHex 2 0, rfl, by decide, by decide, by decide⟩

theorem Frame.checkReply_commandAck :
    checkReply .commandAck (commandAck 0).dropLast = .ok () := by
  have hdrop : (commandAck 0).dropLast =
      Bytes.ascii ['@', '0', '0', 'W', 'D', '0', '0', '5', '3', '*'] := by decide
  rw [hdrop]
  rfl

namespace Simulator

/-- A corrupt reply has another digit in its check field. -/
theorem spoil_terminate (content : Bytes) :
    ∃ digit low, Checksum.isFieldDigit digit = true ∧ Checksum.isFieldDigit low = true ∧
      spoil (Checksum.terminate content) = content ++ [digit, low] ++ [stop, cr] ∧
      Bytes.Damaged (Checksum.close content) (content ++ [digit, low] ++ [stop]) := by
  have hdigits := Checksum.all_isFieldDigit_chars (Checksum.compute content)
  obtain ⟨high, low, hchars⟩ :
      ∃ high low, Checksum.chars (Checksum.compute content) = [high, low] := ⟨_, _, rfl⟩
  rw [hchars, List.all_cons, List.all_cons, Bool.and_eq_true, Bool.and_eq_true] at hdigits
  have hplace : (Checksum.terminate content).length - 4 = content.length := by simp
  have hspoil : ∃ digit, digit ≠ high ∧ Checksum.isFieldDigit digit = true ∧
      spoil (Checksum.terminate content) = content ++ [digit, low] ++ [stop, cr] := by
    unfold spoil
    rw [hplace, List.modify_eq_take_cons_drop (by simp [Checksum.terminate])]
    simp only [Checksum.terminate, hchars]
    by_cases hzero : high = '0'.toUInt8
    · refine ⟨'1'.toUInt8, ?_, by decide, by simp [hzero]⟩
      rw [hzero]
      decide
    · exact ⟨'0'.toUInt8, Ne.symm hzero, by decide, by simp [hzero]⟩
  obtain ⟨digit, hne, hdigit, hspoil⟩ := hspoil
  refine ⟨digit, low, hdigit, hdigits.2.1, hspoil, content, high, digit, [low, stop], hne.symm,
    ?_, ?_⟩
  · simp [Checksum.close, hchars]
  · simp

/-- A reply that a corrupt simulator sends is a transmission, and what an assembler makes of it is
refused. -/
theorem isTransmission_spoil {reply : Bytes} (h : IsReply reply) :
    ∃ inner, IsTransmission (spoil reply) inner ∧ inner.length ≤ 76 ∧
      Frame.Refused (spoil reply).dropLast := by
  obtain ⟨rest, rfl, hstart, hstop, hlen⟩ := h
  obtain ⟨digit, low, hdigit, hlow, hspoil, hdamaged⟩ := spoil_terminate (start :: rest)
  have hfield : [digit, low].all Checksum.isFieldDigit = true := by simp [hdigit, hlow]
  have hstart' := Checksum.not_mem_of_isFieldDigit hfield (b := start) (by decide)
  have hstop' := Checksum.not_mem_of_isFieldDigit hfield (b := stop) (by decide)
  have hdrop : (spoil (Checksum.terminate (start :: rest))).dropLast =
      start :: rest ++ [digit, low] ++ [stop] := by
    have hconcat : start :: rest ++ [digit, low] ++ [stop, cr] =
        (start :: rest ++ [digit, low] ++ [stop]) ++ [cr] := by simp
    rw [hspoil, hconcat, List.dropLast_concat]
  refine ⟨rest ++ [digit, low], ⟨by simp [hspoil], ?_, ?_⟩, ?_, ?_⟩
  · rw [List.mem_append, not_or]
    exact ⟨hstart, hstart'⟩
  · rw [List.mem_append, not_or]
    exact ⟨hstop, hstop'⟩
  · rw [List.length_append]
    exact Nat.add_le_add_right hlen 2
  · rw [hdrop]
    refine Frame.refused_of_changed ⟨rfl, start :: rest ++ [digit, low], rfl, ?_⟩ hdamaged
    have hne : stop ≠ start := by decide
    rw [List.mem_append, List.mem_cons]
    simp [hne, hstop, hstop']

theorem IsReply.isTransmission {reply : Bytes} (h : IsReply reply) :
    ∃ inner, IsTransmission reply inner ∧ inner.length ≤ 76 := by
  obtain ⟨rest, rfl, hstart, hstop, hlen⟩ := h
  refine ⟨_, Checksum.isTransmission_terminate hstart hstop, ?_⟩
  rw [List.length_append, Checksum.length_chars]
  exact Nat.add_le_add_right hlen 2

/-! ## Frames -/

/-- **The simulator takes every frame.** -/
theorem send_eq (p : Simulator) (now : Nat) (frame : Bytes) :
    Peer.send p now frame =
      { peer := (p.receive frame).1
        replies := (p.receive frame).1.replyChunks (p.receive frame).2 } := by
  have htransmit : p.transmit true frame =
      ((p.receive frame).1, .ok ((p.receive frame).1.replyChunks (p.receive frame).2)) := by
    unfold transmit
    obtain ⟨after, reply⟩ := p.receive frame
    dsimp only
    split
    · rename_i hnone
      rw [hnone]
    · rfl
  simp only [Peer.send, htransmit]

theorem receive_statusRequest (p : Simulator) :
    p.receive Frame.statusRequest =
      ({ p with requests := p.requests + 1 }, some p.status.encode) := by
  have hcheck : Frame.checkRequest Frame.statusRequest = .ok .status := rfl
  simp only [receive, hcheck]

theorem checkRequest_encode (c : Command) : Frame.checkRequest c.encode = .ok .command :=
  Frame.checkRequest_eq_command_iff.2 c.checkCommand_encode

/-- A command changes the hardware as it says and is acknowledged. -/
theorem receive_encode (p : Simulator) (c : Command) :
    p.receive c.encode =
      ({ p with status := c.carried.apply p.status, commands := p.commands ++ [c.carried] },
        some (Frame.commandAck 0)) := by
  simp only [receive, checkRequest_encode, Command.decode_encode]

/-- A frame does not touch the switches. -/
theorem switches_receive (p : Simulator) (frame : Bytes) :
    (p.receive frame).1.silent = p.silent ∧ (p.receive frame).1.corrupt = p.corrupt := by
  unfold receive
  split
  · exact ⟨rfl, rfl⟩
  · split <;> exact ⟨rfl, rfl⟩
  · exact ⟨rfl, rfl⟩

/-- **What is delivered of a reply**, whatever the size of the chunks: the reply as the switches
leave it, less its carriage return. -/
theorem pushAll_replyChunks (p : Simulator) {reply : Bytes} (h : IsReply reply) {capacity : Nat}
    (hcap : 78 ≤ capacity) :
    Assembler.pushAll { capacity } (p.replyChunks (some reply)) =
      ({ capacity }, ((p.switched reply).map List.dropLast).toList) := by
  unfold replyChunks switched
  cases p.silent with
  | true => rfl
  | false =>
    cases p.corrupt with
    | true =>
      obtain ⟨inner, htransmission, hlen, -⟩ := isTransmission_spoil h
      exact Assembler.pushAll_transmission htransmission (by omega) (Bytes.flatten_chunks _ _)
    | false =>
      obtain ⟨inner, htransmission, hlen⟩ := IsReply.isTransmission h
      exact Assembler.pushAll_transmission htransmission (by omega) (Bytes.flatten_chunks _ _)

end Simulator

end DomeLink
