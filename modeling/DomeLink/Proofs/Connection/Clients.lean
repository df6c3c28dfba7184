import DomeLink.Proofs.Connection.Linked

/-!
# Clients of a connection with a simulator

`Used` is what clients can make of a connection with a simulator, which may be given other switches
and another state between their operations. A `Deed` is what they do while the switches stay as they
are: they ask for changes, let time pass, or change the state of the hardware.

* `Fresh.start`: a connection that has just been opened is linked as soon as it has begun.
* `Used.between`: so is, while it runs, every connection that is used, and nothing is on its way
  between two operations.
* `Between.performAll`: what all moves and all changes of the hardware keep is kept by deeds.
* `Held.performAll`: deeds do not end a session while a client holds a handle.
-/

namespace DomeLink.Connection

variable {config : Config} {c d : Connection Simulator} {i : SessionInput}

/-! ## The beginning -/

/-- The connection has been opened and is still to begin. -/
structure Fresh (config : Config) (c : Connection Simulator) : Prop where
  reaches : ∃ log, Reaches config log c
  accepted : config.check = .ok ()
  session : c.session = (Session.opened config.timing).1
  opening : c.opening = (Session.opened config.timing).2
  assembler : c.line.assembler = { capacity := config.rxCapacity.toNat }
  bound : c.line.isBound = true
  handled : c.line.handler = some ()
  deadlines : c.deadlines = {}
  frames : c.frames = []
  inbound : c.inbound = []
  reading : c.reading = true
  hungUp : c.hungUp = false
  sent : c.sent = []
  commsOk : c.board.commsOk = false

theorem fresh_opened {peer : Simulator} (h : openTo config peer = .ok c) : Fresh config c := by
  have hreaches := Reaches.opened h
  obtain ⟨hcheck, h⟩ := check_bind_eq_ok.1 h
  cases h
  exact ⟨⟨_, hreaches⟩, hcheck, rfl, rfl, rfl, rfl, rfl, rfl, rfl, rfl, rfl, rfl, rfl, rfl⟩

theorem Fresh.outside (h : Fresh config c) (peer : Simulator) (handles : List Bool) (board : Board)
    (hboard : board.commsOk = c.board.commsOk) :
    Fresh config { c with peer, handles, board } := by
  obtain ⟨log, hreaches⟩ := h.reaches
  exact { h with
    reaches := ⟨log, hreaches.outside peer c.frames c.inbound c.hungUp handles board⟩
    commsOk := hboard.trans h.commsOk }

/-- The opening has been carried out: the initial status has been asked for. -/
structure Begun (config : Config) (c d : Connection Simulator) : Prop where
  linked : Linked config d
  session : d.session = (Session.opened config.timing).1
  published : d.board.published = c.board.published
  sent : d.sent = [Frame.statusRequest]
  peer : d.peer = (c.peer.receive Frame.statusRequest).1
  answers : d.peer.Answers .awaitInitialStatus d.arriving

theorem Fresh.executed (h : Fresh config c) :
    Executed { c with opening := [] } (Session.opened config.timing).2 c.start := by
  have hbound : { c with opening := [] }.line.isBound = true := h.bound
  rw [← h.opening]
  exact Connection.executed hbound c.opening

/-- What is delivered as the connection begins: what the simulator answers to a status request. -/
theorem Fresh.delivered (h : Fresh config c) :
    c.start.line.assembler.pushAll c.start.inbound =
      Assembler.pushAll { capacity := config.rxCapacity.toNat }
        (c.peer.serve [Frame.statusRequest]).2 := by
  have hline : c.start.line = c.line := line_execute _ _
  rw [hline, h.assembler, h.executed.inbound, h.inbound]
  rfl

theorem Fresh.arriving_eq (h : Fresh config c) {a : Assembler} {frames : List Bytes}
    (hpush : Assembler.pushAll { capacity := config.rxCapacity.toNat }
      (c.peer.serve [Frame.statusRequest]).2 = (a, frames)) : c.start.arriving = frames := by
  have hframes : c.start.frames = [] := (frames_execute _ _).trans h.frames
  rw [arriving, hframes, h.delivered, hpush]
  rfl

/-- The status of the simulator arrives first, as the switches leave it. -/
theorem Fresh.arriving_start (h : Fresh config c) :
    c.start.arriving = ((c.peer.switched c.peer.status.encode).map List.dropLast).toList :=
  h.arriving_eq (c.peer.pushAll_serve_statusRequest (Config.le_rxCapacity h.accepted))

theorem Fresh.start (h : Fresh config c) : Begun config c c.start := by
  have hd := h.executed
  have hsession : c.start.session = (Session.opened config.timing).1 := hd.session.trans h.session
  have hcap := Config.le_rxCapacity h.accepted
  have hline : c.start.line = c.line := line_execute _ _
  obtain ⟨frames, hdelivered, hanswers⟩ :=
    Simulator.answers_of_asks (p := c.peer) (Session.asks_opened config.timing) hcap
  have hpush := h.delivered.trans hdelivered
  have harriving : c.start.arriving = frames := h.arriving_eq hdelivered
  have hpeer : c.start.peer = (c.peer.receive Frame.statusRequest).1 := hd.peer
  have hanswers' : c.start.peer.Answers .awaitInitialStatus c.start.arriving := by
    obtain ⟨hsilent, hcorrupt⟩ := c.peer.switches_receive Frame.statusRequest
    rw [harriving, hpeer]
    exact hanswers.congr hsilent hcorrupt
  have hdeadlines : c.start.deadlines =
      (Timers.after c.now {} (Session.opened config.timing).2).deadlines :=
    hd.deadlines {} h.deadlines.symm
  have hnow : c.start.now = c.now := now_execute _ _
  refine ⟨?_, hsession, ?_, ?_, hpeer, hanswers'⟩
  · constructor
    case reaches =>
      obtain ⟨log, hreaches⟩ := h.reaches
      exact ⟨_, hreaches.start⟩
    case opening => exact opening_execute _ _
    case isOpen =>
      rw [hsession]
      exact nofun
    case reading => exact (reading_execute _ _).trans h.reading
    case hungUp => exact (hungUp_execute _ _).trans h.hungUp
    case bound => rw [hline, h.bound]
    case handled => rw [hline, h.handled]
    case whole => exact ⟨_, hcap, congrArg Prod.fst hpush⟩
    case commsOk =>
      rw [hd.commsOk, hsession]
      exact h.commsOk
    case inPeriod =>
      rw [hnow, hdeadlines]
      have hnone : Timers.InPeriod config.timing c.now ({} : Timers).deadlines := by
        intro timer due hget
        cases timer <;> cases hget
      exact hnone.after (Session.routine_requestStatus { timing := config.timing } _).paced
    case answers =>
      refine .inr ⟨?_, ?_, fun due hget => ?_⟩
      · rw [hsession]
        rfl
      · rw [hsession]
        exact hanswers'
      · rw [hdeadlines] at hget
        cases hget
        rw [hnow]
        exact Nat.lt_add_of_pos_right (Config.period_pos h.accepted .response)
  · rw [hd.published]
    exact List.append_nil _
  · rw [hd.sent, h.sent]
    rfl

/-! ## Between operations -/

/-- What is done from outside while nothing is on its way leaves a connection linked. -/
theorem Linked.outside (h : Linked config c) (harriving : c.arriving = []) (peer : Simulator)
    (handles : List Bool) (board : Board) (hboard : board.commsOk = c.board.commsOk) :
    Linked config { c with peer, handles, board } := by
  obtain ⟨log, hreaches⟩ := h.reaches
  exact { h with
    reaches := ⟨log, hreaches.outside peer c.frames c.inbound c.hungUp handles board⟩
    commsOk := hboard.trans h.commsOk
    answers := .inl harriving }

/-- What holds of a connection from its beginning on: `F` before it has begun, and `P` from then on,
whatever moves it makes. -/
structure Keeps (config : Config) (F P : Connection Simulator → Prop) : Prop where
  begins : ∀ c d, Begun config c d → F c → P d
  happens : ∀ c d, Linked config c → Happens c d → P c → P d

/-- **A connection between two operations**: while it runs, it is still to begin, or nothing is on
its way. -/
structure Between (config : Config) (F P : Connection Simulator → Prop)
    (c : Connection Simulator) : Prop where
  steady : Steady config c
  running : c.running = true →
    Fresh config c ∧ F c ∨ Linked config c ∧ c.arriving = [] ∧ P c

variable {F P : Connection Simulator → Prop}

/-- A connection that runs is linked once it has begun. -/
theorem Between.begun (hbegins : ∀ c, Fresh config c → F c → P c.start) (h : Between config F P c)
    (hrun : c.start.running = true) : Linked config c.start ∧ P c.start := by
  rw [start, running_execute] at hrun
  rcases h.running hrun with ⟨hfresh, hc⟩ | ⟨hlinked, -, hc⟩
  · exact ⟨hfresh.start.linked, hbegins _ hfresh hc⟩
  · rw [start_of_opened hlinked.opening]
    exact ⟨hlinked, hc⟩

/-- What some moves keep of linked connections holds of all that these moves lead to. -/
theorem Linked.keep {R : Connection Simulator → Connection Simulator → Prop}
    (hmove : ∀ c d, R c d → Move c d)
    (hP : ∀ c d, Linked config c → R c d → d.running = true → P c → P d)
    (hchain : Relation.ReflTransGen R c d) (hc : c.running = true → Linked config c ∧ P c)
    (hrun : d.running = true) : Linked config d ∧ P d := by
  induction hchain with
  | refl => exact hc hrun
  | tail _ hr ih =>
    obtain ⟨hlinked, hbefore⟩ := ih ((hmove _ _ hr).running hrun)
    exact ⟨(hlinked.move (hmove _ _ hr) hrun).1, hP _ _ hlinked hr hrun hbefore⟩

/-- **What moves keep holds of all that moves lead to** after the connection has settled. -/
theorem Between.moves (hk : Keeps config F P) (h : Between config F P c) (hm : Moves c.settle d)
    (hrun : d.running = true) : Linked config d ∧ P d := by
  refine Linked.keep (R := Move) (fun _ _ => id) (fun c d hlinked hmove hrun hc => ?_)
    ((moves_settle c).trans hm)
    (h.begun fun c hfresh hc => hk.begins _ _ hfresh.start hc) hrun
  exact hk.happens c d hlinked (hlinked.move hmove hrun).2 hc

/-- Where nothing is left to happen a connection that is linked is between operations. -/
theorem Between.of_still (hsteady : Steady config d) (hstill : d.proceed? = none)
    (hd : d.running = true → Linked config d ∧ P d) : Between config F P d where
  steady := hsteady
  running := by
    intro hrun
    obtain ⟨hlinked, hc⟩ := hd hrun
    exact .inr ⟨hlinked, hlinked.arriving_of_still hrun hstill, hc⟩

/-- After moves to where nothing is left to happen a connection is between operations again. -/
theorem Between.of_moves (hk : Keeps config F P) (h : Between config F P c)
    (hm : Moves c.settle d) (hsteady : Steady config d) (hstill : d.proceed? = none) :
    Between config F P d := .of_still hsteady hstill (h.moves hk hm)

theorem Between.settle (hk : Keeps config F P) (h : Between config F P c) :
    Between config F P c.settle :=
  h.of_moves hk .refl h.steady.settle.1 (proceed?_settle c)

/-- A settled connection that runs has begun. -/
theorem Between.settled (hk : Keeps config F P) (h : Between config F P c)
    (hrun : c.settle.running = true) :
    Linked config c.settle ∧ c.settle.arriving = [] ∧ P c.settle := by
  obtain ⟨hlinked, hc⟩ := h.moves hk .refl hrun
  exact ⟨hlinked, hlinked.arriving_of_still hrun (proceed?_settle c), hc⟩

theorem Between.outside (h : Between config F P c) (peer : Simulator) (handles : List Bool)
    (board : Board) (hboard : board.commsOk = c.board.commsOk)
    (hF : F c → F { c with peer, handles, board }) (hP : P c → P { c with peer, handles, board }) :
    Between config F P { c with peer, handles, board } where
  steady := h.steady.outside peer c.frames c.inbound c.hungUp handles board
  running := by
    intro hrun
    rcases h.running hrun with ⟨hfresh, hc⟩ | ⟨hlinked, harriving, hc⟩
    · exact .inl ⟨hfresh.outside peer handles board hboard, hF hc⟩
    · exact .inr ⟨hlinked.outside harriving peer handles board hboard, harriving, hP hc⟩

theorem Between.request (hk : Keeps config F P) (h : Between config F P c)
    (changes : List Change) : Between config F P (c.request changes).1 := by
  by_cases hrun : c.running = true
  · obtain ⟨hm, hstill⟩ := moves_request c changes hrun
    exact h.of_moves hk hm (h.steady.request changes) hstill
  · unfold Connection.request
    rw [if_neg hrun]
    exact h

theorem Between.sleep (hk : Keeps config F P) (h : Between config F P c) (ms : Nat) :
    Between config F P (c.sleep ms) := by
  obtain ⟨hm, hstill⟩ := moves_sleep h.steady ms
  exact h.of_moves hk hm (h.steady.sleep ms) hstill

theorem Between.waitUntil (hk : Keeps config F P) (h : Between config F P c)
    (ready : Connection Simulator → Bool) (limit : Nat) :
    Between config F P (c.waitUntil ready limit).1 := by
  have hsteady := h.steady.waitUntil ready limit
  unfold Connection.waitUntil at hsteady ⊢
  by_cases hready : ready c = true
  · rw [if_pos hready]
    exact h
  · rw [if_neg hready] at hsteady ⊢
    by_cases hlimit : limit ≤ c.now
    · rw [if_pos hlimit]
      exact h
    · rw [if_neg hlimit] at hsteady ⊢
      obtain ⟨hsettle, hopen⟩ := h.steady.settle
      have hle : c.settle.now ≤ limit := by
        rw [now_settle]
        exact Nat.le_of_not_le hlimit
      obtain ⟨hm, hstill⟩ := moves_passUntil hsettle hopen (proceed?_settle c) ready hle
      exact h.of_moves hk hm hsteady hstill

theorem Between.close (h : Between config F P c) : Between config F P c.close := by
  have hsteady := h.steady.close
  unfold Connection.close at hsteady ⊢
  by_cases hrun : c.running = true
  · rw [if_pos hrun] at hsteady ⊢
    exact ⟨hsteady, nofun⟩
  · rw [if_neg hrun]
    exact h

/-! ## What clients can make of a connection -/

/-- **A connection with a simulator that is used.** The simulator may be changed at will between the
operations of the clients. -/
inductive Used (config : Config) : Connection Simulator → Prop
  | opened {peer : Simulator} {c : Connection Simulator} (h : openTo config peer = .ok c) :
      Used config c
  | simulator {c : Connection Simulator} (h : Used config c) (peer : Simulator) :
      Used config { c with peer }
  | clone {c : Connection Simulator} (h : Used config c) : Used config c.clone
  | dropHandle {c : Connection Simulator} (h : Used config c) (index : Nat) :
      Used config (c.dropHandle index)
  | listen {c : Connection Simulator} (h : Used config c) (listener : Listener) :
      Used config (c.listen listener)
  | takeStatusAvailable {c : Connection Simulator} (h : Used config c) :
      Used config c.takeStatusAvailable.1
  | takeCommsChanged {c : Connection Simulator} (h : Used config c) :
      Used config c.takeCommsChanged.1
  | request {c : Connection Simulator} (h : Used config c) (changes : List Change) :
      Used config (c.request changes).1
  | sleep {c : Connection Simulator} (h : Used config c) (ms : Nat) : Used config (c.sleep ms)
  | waitUntil {c : Connection Simulator} (h : Used config c)
      (ready : Connection Simulator → Bool) (limit : Nat) :
      Used config (c.waitUntil ready limit).1
  | close {c : Connection Simulator} (h : Used config c) : Used config c.close

/-- Nothing in particular is kept. -/
theorem keeps_true (config : Config) : Keeps config (fun _ => True) (fun _ => True) :=
  ⟨fun _ _ _ _ => trivial, fun _ _ _ _ _ => trivial⟩

/-- **A connection that is used is linked** between two operations, while it runs. -/
theorem Used.between (h : Used config c) :
    Between config (fun _ => True) (fun _ => True) c := by
  have hk := keeps_true config
  have houtside {c : Connection Simulator} (h : Between config (fun _ => True) (fun _ => True) c)
      (peer : Simulator) (handles : List Bool) {board : Board}
      (hboard : board.commsOk = c.board.commsOk) :
      Between config (fun _ => True) (fun _ => True) { c with peer, handles, board } :=
    h.outside peer handles board hboard id id
  induction h with
  | opened h => exact ⟨steady_opened h, fun _ => .inl ⟨fresh_opened h, trivial⟩⟩
  | @simulator c _ peer ih => exact houtside ih peer c.handles rfl
  | @clone c _ ih => exact houtside ih c.peer (c.handles ++ [c.isHeld]) rfl
  | @dropHandle c _ index ih =>
    have hdropped := houtside ih c.peer (c.handles.set index false) rfl
    unfold Connection.dropHandle
    dsimp only
    split
    · exact hdropped.settle hk
    · exact hdropped
  | @listen c _ listener ih => exact houtside ih c.peer c.handles rfl
  | @takeStatusAvailable c _ ih => exact houtside ih c.peer c.handles rfl
  | @takeCommsChanged c _ ih => exact houtside ih c.peer c.handles rfl
  | request _ changes ih => exact ih.request hk changes
  | sleep _ ms ih => exact ih.sleep hk ms
  | waitUntil _ ready limit ih => exact ih.waitUntil hk ready limit
  | close _ ih => exact ih.close

/-! ## Deeds -/

/-- What clients do while the switches of the simulator stay as they are. -/
inductive Deed
  | request (changes : List Change)
  | resetAcquisition
  | shutLightOut
  | sleep (ms : Nat)
  /-- The hardware, the handset included, changes by itself. -/
  | hardware (change : Status → Status)

def perform (c : Connection Simulator) : Deed → Connection Simulator
  | .request changes => (c.request changes).1
  | .resetAcquisition => c.resetAcquisition.1
  | .shutLightOut => c.shutLightOut.1
  | .sleep ms => c.sleep ms
  | .hardware change => { c with peer := { c.peer with status := change c.peer.status } }

def performAll (c : Connection Simulator) (deeds : List Deed) : Connection Simulator :=
  deeds.foldl perform c

/-- What requests, waits and changes of the hardware keep, deeds keep. -/
theorem performAll_keeps {B : Connection Simulator → Prop}
    (hrequest : ∀ c changes, B c → B (c.request changes).1)
    (hsleep : ∀ c ms, B c → B (c.sleep ms))
    (hhardware : ∀ c change, B c → B (perform c (.hardware change))) (h : B c)
    (deeds : List Deed) : B (c.performAll deeds) := by
  induction deeds generalizing c with
  | nil => exact h
  | cons deed deeds ih =>
    refine ih ?_
    cases deed with
    | request changes => exact hrequest c changes h
    | resetAcquisition => exact hrequest c _ h
    | shutLightOut => exact hrequest c _ h
    | sleep ms => exact hsleep c ms h
    | hardware change => exact hhardware c change h

/-- **What moves keep, deeds keep**, if changes of the hardware do. -/
theorem Between.performAll (hk : Keeps config F P)
    (hF : ∀ c change, F c → F (perform c (.hardware change)))
    (hP : ∀ c change, P c → P (perform c (.hardware change))) (h : Between config F P c)
    (deeds : List Deed) : Between config F P (c.performAll deeds) :=
  performAll_keeps (fun _ changes h => h.request hk changes) (fun _ ms h => h.sleep hk ms)
    (fun c change h => h.outside _ c.handles c.board rfl (hF c change) (hP c change)) h deeds

/-- A client holds a handle on a session that runs. -/
structure Held (config : Config) (c : Connection Simulator) : Prop where
  steady : Steady config c
  running : c.running = true
  held : c.isHeld = true

theorem held_opened {peer : Simulator} (h : openTo config peer = .ok c) : Held config c := by
  have hsteady := steady_opened h
  obtain ⟨-, h⟩ := check_bind_eq_ok.1 h
  cases h
  exact ⟨hsteady, rfl, rfl⟩

theorem Held.of_moves (h : Held config c) (hm : Moves c.settle d) (hsteady : Steady config d) :
    Held config d := by
  have hstart : c.start.handles = c.handles ∧ c.start.running = c.running :=
    ⟨handles_execute _ _, running_execute _ _⟩
  have hheld : c.start.isHeld = true := by
    rw [isHeld, hstart.1]
    exact h.held
  have hmoves : Moves c.start d := (moves_settle c).trans hm
  obtain ⟨hhandles, hrunning⟩ := hmoves.held hheld
  refine ⟨hsteady, ?_, ?_⟩
  · rw [hrunning, hstart.2, h.running]
  · rw [isHeld, hhandles]
    exact hheld

theorem Held.settle (h : Held config c) : Held config c.settle :=
  h.of_moves .refl h.steady.settle.1

theorem Held.simulator (h : Held config c) (peer : Simulator) : Held config { c with peer } :=
  ⟨h.steady.outside peer c.frames c.inbound c.hungUp c.handles c.board, h.running, h.held⟩

/-- Deeds do not end the session while a client holds a handle. -/
theorem Held.performAll (h : Held config c) (deeds : List Deed) :
    Held config (c.performAll deeds) :=
  performAll_keeps
    (fun c changes h =>
      h.of_moves (moves_request c changes h.running).1 (h.steady.request changes))
    (fun _ ms h => h.of_moves (moves_sleep h.steady ms).1 (h.steady.sleep ms))
    (fun _ _ h => h.simulator _) h deeds

end DomeLink.Connection
