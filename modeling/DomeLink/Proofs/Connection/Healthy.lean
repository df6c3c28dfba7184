import DomeLink.Proofs.Connection.Clients

/-!
# A simulator that answers

With neither switch of the simulator set, every request is answered at once: while a reply is
awaited, it is on its way (`Prompt`). So no exchange fails, the link is never lost, and the
simulator has received exactly the commands that were sent: `healthy_loop`.
-/

namespace DomeLink

theorem Action.latestCommand?_congr {as bs : List Action} (h : frames as = frames bs) :
    latestCommand? as = latestCommand? bs := by
  rw [latestCommand?, latestCommand?, commandFrames, commandFrames, h]

theorem Action.frames_map_transmit (fs : List Bytes) : frames (fs.map .transmit) = fs := by
  induction fs with
  | nil => rfl
  | cons frame fs ih => exact congrArg (frame :: ·) ih

namespace Simulator

/-- The simulator has received the commands that were sent. -/
def Received (p : Simulator) (sent : List Bytes) : Prop :=
  (sent.filter Frame.isCommand).map Command.decode = p.commands.map .ok

/-- A request adds to what has been received what it adds to what was sent. -/
theorem Received.receive {p : Simulator} {sent : List Bytes} {timing : Timing} {r : Session.Step}
    {before : List Action} {frame : Bytes} (h : p.Received sent)
    (hasks : Session.Asks timing r before frame) :
    (p.receive frame).1.Received (sent ++ [frame]) := by
  have hstatus (hs : r.1.state = .awaitInitialStatus ∨ r.1.state = .awaitStatus) :
      (p.receive frame).1.Received (sent ++ [frame]) := by
    have hfilter : [Frame.statusRequest].filter Frame.isCommand = [] :=
      List.filter_cons_of_neg (by rw [Frame.not_isCommand_statusRequest]; decide)
    rw [hasks.status hs, receive_statusRequest, Received, List.filter_append, hfilter,
      List.append_nil]
    exact h
  cases hs : r.1.state with
  | awaitInitialStatus => exact hstatus (.inl hs)
  | awaitStatus => exact hstatus (.inr hs)
  | awaitCommandAck =>
    have hfilter : [r.1.command.encode].filter Frame.isCommand = [r.1.command.encode] :=
      List.filter_cons_of_pos r.1.command.isCommand_encode
    rw [hasks.command hs, receive_encode, Received, List.filter_append, hfilter, List.map_append,
      List.map_append, h, List.map_singleton, Command.decode_encode]
    rfl
  | idle | closed =>
    have hawaiting := hasks.awaiting
    rw [hs] at hawaiting
    cases hawaiting

end Simulator

namespace Connection

variable {config : Config} {c d : Connection Simulator} {i : SessionInput}

/-! ## Prompt replies -/

/-- The simulator answers, and while a reply is awaited it is on its way. -/
structure Prompt (c : Connection Simulator) : Prop where
  silent : c.peer.silent = false
  corrupt : c.peer.corrupt = false
  arrives : c.session.state.isAwaiting = true → c.arriving ≠ []

/-- What is on its way from a simulator that answers is a reply that the session waits for. -/
theorem Prompt.takes (h : Prompt c) (hlinked : Linked config c) {frame : Bytes}
    (harriving : c.arriving = [frame]) : c.session.state.Takes frame := by
  rcases hlinked.answers with hnil | ⟨-, hanswers, -⟩
  · exact absurd (harriving.symm.trans hnil) nofun
  · rw [harriving] at hanswers
    cases hanswers with
    | corrupt _ hcorrupt => exact absurd (h.corrupt.symm.trans hcorrupt) nofun
    | good _ _ htakes => exact htakes

/-- Every exchange ends with such a reply. -/
theorem Prompt.heard (h : Prompt c) (hlinked : Linked config c) (hdue : Due c i) :
    c.session.Heard i := by
  intro hends
  cases hdue with
  | frame harriving => exact ⟨_, rfl, h.takes hlinked harriving⟩
  | @timer timer due hget hpast =>
    obtain ⟨t, before, hsettles, -⟩ := Session.exists_settles hends
    rcases hlinked.answers with hnil | ⟨-, -, hlater⟩
    · exact absurd hnil (h.arrives hsettles.isAwaiting)
    · cases timer with
      | response => exact absurd hpast (Nat.not_le.2 (hlater due hget))
      | statusPoll | heartbeat => cases hends
  | update => cases hends

theorem arriving_ne_nil {state : SessionState} (hsilent : c.peer.silent = false)
    (h : c.peer.Answers state c.arriving) : c.arriving ≠ [] := by
  generalize c.arriving = frames at h
  cases h with
  | silent hs => exact absurd (hsilent.symm.trans hs) nofun
  | corrupt | good => exact List.cons_ne_nil _ _

/-- Nothing that happens to the session touches the switches of the simulator. -/
theorem Fed.switches (h : Fed c i d) :
    d.peer.silent = c.peer.silent ∧ d.peer.corrupt = c.peer.corrupt := by
  rw [h.peer]
  exact c.peer.switches_serve _

/-- Replies are prompt after a step that makes a request where it leaves the session waiting. -/
theorem Fed.prompt (h : Fed c i d) (hsilent : c.peer.silent = false)
    (hcorrupt : c.peer.corrupt = false)
    (hr : d.session.state.isAwaiting = true →
      d.arriving ≠ [] ∨ c.session.Requests (c.session.step i)) : Prompt d := by
  obtain ⟨hsilent', hcorrupt'⟩ := h.switches
  refine ⟨hsilent'.trans hsilent, hcorrupt'.trans hcorrupt, fun hawaiting => ?_⟩
  rcases hr hawaiting with harriving | hrequests
  · exact harriving
  · exact arriving_ne_nil (hsilent'.trans hsilent) (h.answers hrequests)

/-- A simulator that answers goes on answering. -/
theorem Prompt.happens (h : Prompt c) (hlinked : Linked config c) (hd : Happens c d) :
    Prompt d := by
  cases hd with
  | quiet hquiet =>
    constructor
    · rw [hquiet.peer, h.silent]
    · rw [hquiet.peer, h.corrupt]
    · rw [hquiet.session, hquiet.arriving]
      exact h.arrives
  | @fed i hdue hfed =>
    refine hfed.prompt h.silent h.corrupt fun hawaiting => ?_
    rw [hfed.session] at hawaiting
    have hcourse := hfed.course hlinked hdue
    rcases hcourse.requests_of_isAwaiting hawaiting with ⟨hbefore, hsends, hends⟩ | hrequests
    · left
      rw [hfed.kept hsends]
      · exact h.arrives hbefore
      · -- a frame would be a reply, and end the exchange
        rintro frame rfl
        cases hdue with
        | frame harriving =>
          have htakes := Session.endsExchange_of_takes (h.takes hlinked harriving)
          exact absurd (hends.symm.trans htakes) nofun
    · exact .inr hrequests

/-- A simulator that answers a connection as it begins. -/
theorem Begun.prompt (h : Begun config c d) (hsilent : c.peer.silent = false)
    (hcorrupt : c.peer.corrupt = false) : Prompt d := by
  obtain ⟨hsilent', hcorrupt'⟩ := c.peer.switches_receive Frame.statusRequest
  rw [← h.peer, hsilent] at hsilent'
  rw [← h.peer, hcorrupt] at hcorrupt'
  exact ⟨hsilent', hcorrupt', fun _ => arriving_ne_nil hsilent' h.answers⟩

/-- Replies do not depend on the hardware. -/
theorem Prompt.hardware (h : Prompt c) (change : Status → Status) :
    Prompt (perform c (.hardware change)) := ⟨h.silent, h.corrupt, h.arrives⟩

/-- With nothing on its way the session is at rest. -/
theorem Prompt.idle (h : Prompt c) (hlinked : Linked config c) (harriving : c.arriving = []) :
    c.session.state = .idle := by
  by_contra hidle
  exact h.arrives (Session.isAwaiting_of_ne hidle hlinked.isOpen) harriving

/-! ## A healthy connection -/

/-- Nothing has been told of a lost link. -/
def Unbroken (c : Connection Simulator) : Prop := .commsChanged false ∉ c.board.published

/-- A connection with a simulator that answers, before it has begun. -/
structure Sane (c : Connection Simulator) : Prop where
  silent : c.peer.silent = false
  corrupt : c.peer.corrupt = false
  received : c.peer.Received []
  unbroken : c.Unbroken

/-- **A connection with a simulator that answers.** -/
structure Healthy (c : Connection Simulator) : Prop where
  prompt : Prompt c
  recovers : c.session.Recovers
  unbroken : c.Unbroken
  received : c.peer.Received c.sent
  told : c.session.Told (Action.latestCommand? (c.sent.map .transmit))

theorem Begun.healthy (h : Begun config c d) (hc : Sane c) : Healthy d := by
  refine ⟨h.prompt hc.silent hc.corrupt, ?_, ?_, ?_, ?_⟩
  · rw [h.session]
    exact .inr (.inl rfl)
  · rw [Unbroken, h.published]
    exact hc.unbroken
  · rw [h.peer, h.sent]
    exact hc.received.receive (Session.asks_opened config.timing)
  · rw [h.session]
    exact Session.told_of_silent nofun fun _ => ⟨nofun, nofun⟩

/-- A link that is not lost is not told of as lost. -/
theorem Fed.unbroken (h : Fed c i d) (hok : c.session.commsOk = true → d.session.commsOk = true)
    (hc : c.Unbroken) : d.Unbroken := by
  rw [Unbroken, h.published, List.mem_append, not_or]
  refine ⟨hc, fun hmem => ?_⟩
  have hfalse : false ∈ Action.edges (c.session.step i).2 := List.mem_filterMap.2 ⟨_, hmem, rfl⟩
  rw [h.edges] at hfalse
  split at hfalse
  · cases hfalse
  · rename_i hne
    have hlost : d.session.commsOk = false := (List.mem_singleton.1 hfalse).symm
    cases hbefore : c.session.commsOk with
    | true => exact absurd (hlost.symm.trans (hok hbefore)) nofun
    | false => exact hne (hlost.trans hbefore.symm)

/-- What is sent is what the simulator receives. -/
theorem Fed.received (h : Fed c i d) (hlinked : Linked config c) (hdue : Due c i)
    (hc : c.peer.Received c.sent) : d.peer.Received d.sent := by
  rw [h.peer, h.sent]
  rcases (h.course hlinked hdue).sends with hquiet | ⟨⟨before, frame, hasks⟩, -⟩
  · rw [Action.frames_eq_nil hquiet, List.append_nil]
    exact hc
  · rw [hasks.frames]
    exact hc.receive hasks

/-- What the controller has been told is in what has been sent. -/
theorem Fed.told (h : Fed c i d) (hlinked : Linked config c)
    (hc : c.session.Told (Action.latestCommand? (c.sent.map .transmit))) :
    d.session.Told (Action.latestCommand? (d.sent.map .transmit)) := by
  have hframes : Action.frames (c.sent.map .transmit ++ (c.session.step i).2) =
      Action.frames (d.sent.map .transmit) := by
    rw [Action.frames_append, Action.frames_map_transmit, Action.frames_map_transmit, h.sent]
  rw [h.session, ← Action.latestCommand?_congr hframes]
  exact (c.session.step_transition i).told hlinked.wellFormed hc

theorem Healthy.happens (h : Healthy c) (hlinked : Linked config c) (hd : Happens c d) :
    Healthy d := by
  have hprompt := h.prompt.happens hlinked hd
  cases hd with
  | quiet hquiet =>
    refine ⟨hprompt, ?_, ?_, ?_, ?_⟩
    · rw [hquiet.session]
      exact h.recovers
    · rw [Unbroken, hquiet.board]
      exact h.unbroken
    · rw [hquiet.peer, hquiet.sent]
      exact h.received
    · rw [hquiet.session, hquiet.sent]
      exact h.told
  | fed hdue hfed =>
    have hheard := h.prompt.heard hlinked hdue
    have hcourse := hfed.course hlinked hdue
    refine ⟨hprompt, ?_, hfed.unbroken ?_ h.unbroken, hfed.received hlinked hdue h.received,
      hfed.told hlinked h.told⟩
    · rw [hfed.session]
      exact hcourse.recovers hheard hlinked.rest h.recovers
    · rw [hfed.session]
      exact hcourse.commsOk hheard

theorem keeps_healthy (config : Config) : Keeps config Sane Healthy where
  begins := fun _ _ hbegun hc => hbegun.healthy hc
  happens := fun _ _ hlinked hhappens hc => hc.happens hlinked hhappens

/-- A connection to a simulator that answers is healthy, whatever its clients do. -/
theorem between_healthy {status : Status} {chunk : Nat}
    (h : openTo config ({ status, chunk } : Simulator) = .ok c) (deeds : List Deed) :
    Between config Sane Healthy (c.performAll deeds) ∧ Held config (c.performAll deeds) := by
  have hsane : Sane c := by
    cases (check_bind_eq_ok.1 h).2
    exact ⟨rfl, rfl, rfl, nofun⟩
  refine ⟨?_, (held_opened h).performAll deeds⟩
  exact Between.performAll (keeps_healthy config)
    (fun _ _ hc => ⟨hc.silent, hc.corrupt, hc.received, hc.unbroken⟩)
    (fun _ change hc => { hc with prompt := hc.prompt.hardware change })
    ⟨steady_opened h, fun _ => .inl ⟨fresh_opened h, hsane⟩⟩ deeds

end Connection

end DomeLink
