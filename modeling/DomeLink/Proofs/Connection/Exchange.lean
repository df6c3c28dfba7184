import DomeLink.Proofs.Connection.Moves
import DomeLink.Proofs.Session.Comms
import DomeLink.Proofs.Simulator

/-!
# Exchanges with the simulated controller

The simulator takes every frame, so what carrying out actions does to a connection can be said at
once (`Executed`): the session is left alone, the timers, the board and what has been sent are as
the actions say, and the simulator has taken the frames and answered them.

A request is answered as the switches of the simulator are (`Simulator.Answers`): not at all, with a
reply that is refused, or with the reply that the session waits for: `answers_of_asks`.
-/

namespace DomeLink

namespace Simulator

/-- Takes frames one after the other: the simulator after them, and the chunks that it sends. -/
def serve (p : Simulator) : List Bytes → Simulator × List Bytes
  | [] => (p, [])
  | frame :: frames =>
    (((p.receive frame).1.serve frames).1,
      (p.receive frame).1.replyChunks (p.receive frame).2 ++ ((p.receive frame).1.serve frames).2)

theorem switches_serve (p : Simulator) (frames : List Bytes) :
    (p.serve frames).1.silent = p.silent ∧ (p.serve frames).1.corrupt = p.corrupt := by
  induction frames generalizing p with
  | nil => exact ⟨rfl, rfl⟩
  | cons frame frames ih =>
    obtain ⟨hsilent, hcorrupt⟩ := ih (p.receive frame).1
    obtain ⟨hsilent', hcorrupt'⟩ := p.switches_receive frame
    exact ⟨hsilent.trans hsilent', hcorrupt.trans hcorrupt'⟩

/-- **What comes of a request**, as the switches of the simulator are. -/
inductive Answers (p : Simulator) (state : SessionState) : List Bytes → Prop
  | silent (hsilent : p.silent = true) : Answers p state []
  | corrupt {frame : Bytes} (hsilent : p.silent = false) (hcorrupt : p.corrupt = true)
      (hframe : Frame.Refused frame) : Answers p state [frame]
  | good {frame : Bytes} (hsilent : p.silent = false) (hcorrupt : p.corrupt = false)
      (hframe : state.Takes frame) : Answers p state [frame]

/-- A reply that the session waits for, as the switches leave it. -/
theorem answers_of_reply {p : Simulator} {state : SessionState} {reply : Bytes} (h : IsReply reply)
    (htakes : state.Takes reply.dropLast) {capacity : Nat} (hcap : 78 ≤ capacity) :
    ∃ frames, Assembler.pushAll { capacity } (p.replyChunks (some reply)) =
      ({ capacity }, frames) ∧ p.Answers state frames := by
  refine ⟨_, pushAll_replyChunks p h hcap, ?_⟩
  unfold switched
  cases hsilent : p.silent with
  | true => exact .silent hsilent
  | false =>
    cases hcorrupt : p.corrupt with
    | true =>
      obtain ⟨-, -, -, hrefused⟩ := isTransmission_spoil h
      exact .corrupt hsilent hcorrupt hrefused
    | false => exact .good hsilent hcorrupt htakes

/-- What is delivered in answer to a status request: the status, as the switches leave it. -/
theorem pushAll_serve_statusRequest (p : Simulator) {capacity : Nat} (hcap : 78 ≤ capacity) :
    Assembler.pushAll { capacity } (p.serve [Frame.statusRequest]).2 =
      ({ capacity }, ((p.switched p.status.encode).map List.dropLast).toList) := by
  have hserve : (p.serve [Frame.statusRequest]).2 =
      { p with requests := p.requests + 1 }.replyChunks (some p.status.encode) := by
    rw [serve, receive_statusRequest]
    exact List.append_nil _
  rw [hserve, pushAll_replyChunks _ p.status.isReply_encode hcap]
  rfl

theorem Answers.congr {p q : Simulator} {state : SessionState} {frames : List Bytes}
    (h : p.Answers state frames) (hsilent : q.silent = p.silent)
    (hcorrupt : q.corrupt = p.corrupt) : q.Answers state frames := by
  cases h with
  | silent hs => exact .silent (hsilent.trans hs)
  | corrupt hs hc hf => exact .corrupt (hsilent.trans hs) (hcorrupt.trans hc) hf
  | good hs hc hf => exact .good (hsilent.trans hs) (hcorrupt.trans hc) hf

/-- **A request that a session makes is answered** as the switches of the simulator are. -/
theorem answers_of_asks {p : Simulator} {timing : Timing} {r : Session.Step} {before : List Action}
    {frame : Bytes} (h : Session.Asks timing r before frame) {capacity : Nat}
    (hcap : 78 ≤ capacity) :
    ∃ frames, Assembler.pushAll { capacity } (p.serve [frame]).2 = ({ capacity }, frames) ∧
      p.Answers r.1.state frames := by
  have hserve : (p.serve [frame]).2 = (p.receive frame).1.replyChunks (p.receive frame).2 :=
    List.append_nil _
  obtain ⟨hsilent, hcorrupt⟩ := p.switches_receive frame
  have hstatus (hs : r.1.state = .awaitInitialStatus ∨ r.1.state = .awaitStatus) :
      ∃ frames, Assembler.pushAll { capacity } (p.serve [frame]).2 = ({ capacity }, frames) ∧
        p.Answers r.1.state frames := by
    have htakes : r.1.state.Takes p.status.encode.dropLast := by
      have hdecode : ∃ status, Status.decode p.status.encode.dropLast = .ok status :=
        ⟨_, p.status.decode_dropLast_encode⟩
      rcases hs with hs | hs <;> rw [hs] <;> exact hdecode
    rw [hserve, h.status hs, receive_statusRequest]
    obtain ⟨frames, hpush, hanswers⟩ :=
      answers_of_reply (p := { p with requests := p.requests + 1 }) p.status.isReply_encode htakes
        hcap
    exact ⟨frames, hpush, hanswers.congr rfl rfl⟩
  cases hstate : r.1.state with
  | awaitInitialStatus => exact hstate ▸ hstatus (.inl hstate)
  | awaitStatus => exact hstate ▸ hstatus (.inr hstate)
  | awaitCommandAck =>
    have htakes : SessionState.awaitCommandAck.Takes (Frame.commandAck 0).dropLast :=
      Frame.checkReply_commandAck
    rw [hserve, h.command hstate, receive_encode]
    obtain ⟨frames, hpush, hanswers⟩ :=
      answers_of_reply (p := { p with
        status := r.1.command.carried.apply p.status
        commands := p.commands ++ [r.1.command.carried] }) Frame.isReply_commandAck htakes hcap
    exact ⟨frames, hpush, hanswers.congr rfl rfl⟩
  | idle | closed =>
    have hawaiting := h.awaiting
    rw [hstate] at hawaiting
    cases hawaiting

end Simulator

namespace Connection

variable {π : Type} [Peer π]

@[simp] theorem line_execute (c : Connection π) (actions : List Action) :
    (c.execute actions).line = c.line :=
  execute_preserves _ (fun _ _ => rfl) (fun _ _ => rfl) (fun _ _ => rfl) (fun _ _ _ _ => rfl) _ _

@[simp] theorem hungUp_execute (c : Connection π) (actions : List Action) :
    (c.execute actions).hungUp = c.hungUp :=
  execute_preserves _ (fun _ _ => rfl) (fun _ _ => rfl) (fun _ _ => rfl) (fun _ _ _ _ => rfl) _ _

variable {c d : Connection Simulator}

/-- A frame that is sent is taken and answered. -/
theorem transmit_eq (h : c.line.isBound = true) (frame : Bytes) :
    c.transmit frame =
      ({ c with
          peer := (c.peer.receive frame).1
          sent := c.sent ++ [frame]
          inbound := c.inbound ++ (c.peer.receive frame).1.replyChunks (c.peer.receive frame).2 },
        none) := by
  obtain ⟨transport, htransport⟩ := Option.isSome_iff_exists.1 h
  simp only [transmit, Line.transmit, htransport, Simulator.send_eq]

/-- What a client sees of an event. -/
theorem published_publish (b : Board) (status : Status) (event : SessionEvent) :
    (b.publish status event).published = b.published ++ [event] := by
  cases event with
  | handsetChanged =>
    simp only [Board.publish, Board.tell, Board.callListener]
    split <;> rfl
  | _ => rfl

theorem commsOk_publish (b : Board) (status : Status) (event : SessionEvent) :
    (b.publish status event).commsOk = (Action.edge? event).getD b.commsOk := by
  cases event with
  | handsetChanged =>
    simp only [Board.publish, Board.tell, Board.callListener]
    split <;> rfl
  | _ => rfl

/-- **What carrying out actions does.** -/
structure Executed (c : Connection Simulator) (actions : List Action) (d : Connection Simulator) :
    Prop where
  session : d.session = c.session
  deadlines : ∀ t : Timers, t.deadlines = c.deadlines →
    d.deadlines = (t.after c.now actions).deadlines
  published : d.board.published = c.board.published ++ Action.events actions
  commsOk : d.board.commsOk = (Action.edges actions).getLast?.getD c.board.commsOk
  sent : d.sent = c.sent ++ Action.frames actions
  peer : d.peer = (c.peer.serve (Action.frames actions)).1
  inbound : d.inbound = c.inbound ++ (c.peer.serve (Action.frames actions)).2

/-- **Every frame is taken**, so all actions are carried out. -/
theorem executed (h : c.line.isBound = true) (actions : List Action) :
    Executed c actions (c.execute actions) := by
  fun_induction execute c actions with
  | case1 c =>
    exact ⟨rfl, fun t ht => ht.symm, (List.append_nil _).symm, rfl, (List.append_nil _).symm, rfl,
      (List.append_nil _).symm⟩
  | case2 c frame rest r htaken ih =>
    have hr := congrArg Prod.fst (transmit_eq h frame)
    change r.1 = _ at hr
    rw [hr] at ih ⊢
    have hrest := ih h
    exact {
      session := hrest.session
      deadlines := fun t ht => hrest.deadlines { t with asked := some c.now } ht
      published := hrest.published
      commsOk := hrest.commsOk
      sent := hrest.sent.trans (List.append_assoc _ [frame] _)
      peer := hrest.peer
      inbound := hrest.inbound.trans (List.append_assoc _ _ _) }
  | case3 c frame rest r fault hfailed =>
    have hr := congrArg Prod.snd (transmit_eq h frame)
    cases hfailed.symm.trans hr
  | case4 c timer ms rest ih =>
    have hrest := ih h
    exact { hrest with
      deadlines := fun t ht => hrest.deadlines (t.apply c.now (.arm timer ms))
        (congrArg (Deadlines.set · timer (some (c.now + ms))) ht) }
  | case5 c timer rest ih =>
    have hrest := ih h
    exact { hrest with
      deadlines := fun t ht => hrest.deadlines (t.apply c.now (.cancel timer))
        (congrArg (Deadlines.set · timer none) ht) }
  | case6 c event rest ih =>
    have hrest := ih h
    exact { hrest with
      published := by
        rw [hrest.published, published_publish, List.append_assoc]
        rfl
      commsOk := by
        rw [hrest.commsOk, commsOk_publish, Action.edges_notify_cons]
        cases Action.edge? event with
        | none => rfl
        | some ok =>
          have hlast : ((some ok).toList ++ Action.edges rest).getLast? =
              some ((Action.edges rest).getLast?.getD ok) := List.getLast?_cons
          rw [hlast]
          rfl }

end Connection

end DomeLink
