import DomeLink.Proofs.Connection.Exchange
import DomeLink.Proofs.Session.Course

/-!
# Connections with a simulator at work

`Linked` says what holds of a connection with a simulator while it runs. The essential part is about
what is on its way to the session (`arriving`): nothing, or what came of the request that is
outstanding, and then the response timer is not due yet. So a reply is never late and never answers
another request.

* `Linked.move`: moves keep it, and a move either leaves the session alone (`Quiet`) or lets
  something happen to it that is due (`Due`, `Fed`).
* `Fed.course`: what happens to the session takes its course.
* `Fresh.start`: a connection is linked as soon as it has begun.
-/

namespace DomeLink

theorem Session.Asks.frames {timing : Timing} {r : Session.Step} {before : List Action}
    {frame : Bytes} (h : Session.Asks timing r before frame) : Action.frames r.2 = [frame] := by
  rw [h.actions, Action.frames_append, Action.frames_eq_nil h.quiet]
  rfl

namespace Connection

variable {config : Config} {c d e : Connection Simulator} {i : SessionInput}

/-- The frames that are on their way to the session, in their order. -/
def arriving (c : Connection Simulator) : List Bytes :=
  c.frames ++ (c.line.assembler.pushAll c.inbound).2

/-- **A connection with a simulator** that runs and has begun. -/
structure Linked (config : Config) (c : Connection Simulator) : Prop where
  reaches : ∃ log, Reaches config log c
  opening : c.opening = []
  isOpen : c.session.state ≠ .closed
  reading : c.reading = true
  hungUp : c.hungUp = false
  bound : c.line.isBound = true
  handled : c.line.handler = some ()
  /-- What is on its way leaves no frame in progress. -/
  whole : ∃ capacity, 78 ≤ capacity ∧ (c.line.assembler.pushAll c.inbound).1 = { capacity }
  commsOk : c.board.commsOk = c.session.commsOk
  inPeriod : Timers.InPeriod config.timing c.now c.deadlines
  /-- What is on its way is what came of the request that is outstanding. -/
  answers : c.arriving = [] ∨ c.session.state.isAwaiting = true ∧
    c.peer.Answers c.session.state c.arriving ∧ ∀ due, c.deadlines.response = some due → c.now < due

theorem Linked.coherent (h : Linked config c) : ∃ t : Timers, t.deadlines = c.deadlines ∧
    Session.Coherent config.timing (fun _ => c.now) c.session t := by
  obtain ⟨log, hreaches⟩ := h.reaches
  have hcoherent := hreaches.sound.coherent
  rw [h.opening] at hcoherent
  exact ⟨_, rfl, hcoherent⟩

theorem Linked.timing (h : Linked config c) : c.session.timing = config.timing := by
  obtain ⟨t, -, hcoherent⟩ := h.coherent
  exact hcoherent.timing

theorem Linked.period_pos (h : Linked config c) (timer : Timer) :
    0 < config.timing.period timer := by
  obtain ⟨log, hreaches⟩ := h.reaches
  exact hreaches.period_pos timer

theorem Linked.now_le (h : Linked config c) {timer : Timer} {due : Nat}
    (hget : c.deadlines.get timer = some due) : c.now ≤ due := by
  obtain ⟨t, hdeadlines, hcoherent⟩ := h.coherent
  exact hcoherent.notBefore timer due (by rwa [hdeadlines])

/-- Nothing waits while nothing is outstanding. -/
theorem Linked.rest (h : Linked config c) (hs : c.session.state = .idle) :
    c.session.commandPending = false := by
  obtain ⟨log, hreaches⟩ := h.reaches
  have hsession := hreaches.sound.session
  rw [hsession] at hs ⊢
  exact (Session.told_reached config.timing log.inputs).idle hs

theorem Linked.wellFormed (h : Linked config c) : c.session.command.WellFormed := by
  obtain ⟨log, hreaches⟩ := h.reaches
  rw [hreaches.sound.session]
  exact Session.command_wellFormed config.timing log.inputs

/-! ## What happens to the session -/

/-- Something can happen to the session. -/
inductive Due (c : Connection Simulator) : SessionInput → Prop
  | frame {frame : Bytes} (h : c.arriving = [frame]) : Due c (.frame frame)
  | timer {timer : Timer} {due : Nat} (h : c.deadlines.get timer = some due) (hdue : due ≤ c.now) :
      Due c (.timer timer)
  | update {changes : List Change} (h : c.arriving = []) : Due c (.update changes)

theorem Due.ne_close (h : Due c i) : i ≠ .close := by
  rintro rfl
  cases h

/-- What happened to the session has been carried out. -/
structure Fed (c : Connection Simulator) (i : SessionInput) (d : Connection Simulator) : Prop where
  session : d.session = (c.session.step i).1
  now : d.now = c.now
  deadlines : ∀ t : Timers, t.deadlines = c.deadlines →
    d.deadlines = ((t.expire i).after c.now (c.session.step i).2).deadlines
  published : d.board.published = c.board.published ++ Action.events (c.session.step i).2
  commsOk : d.board.commsOk = (Action.edges (c.session.step i).2).getLast?.getD c.board.commsOk
  sent : d.sent = c.sent ++ Action.frames (c.session.step i).2
  peer : d.peer = (c.peer.serve (Action.frames (c.session.step i).2)).1
  /-- With nothing sent, a frame is gone once it has been handled, and nothing else changes. -/
  used : Action.sends (c.session.step i).2 = 0 → ∀ frame, i = .frame frame → d.arriving = []
  kept : Action.sends (c.session.step i).2 = 0 → (∀ frame, i ≠ .frame frame) →
    d.arriving = c.arriving
  /-- A request that is made is answered. -/
  answers : c.session.Requests (c.session.step i) → d.peer.Answers d.session.state d.arriving

/-- What is told of the link is what changes. -/
theorem Fed.edges (h : Fed c i d) : Action.edges (c.session.step i).2 =
    if d.session.commsOk = c.session.commsOk then [] else [d.session.commsOk] := by
  rw [h.session]
  exact c.session.tellsEdge_step i

/-- What happens to the session takes its course. -/
theorem Linked.course (h : Linked config c) (hdue : Due c i) :
    ∃ t : Timers, t.deadlines = c.deadlines ∧ Session.Course c.deadlines
      ((t.expire i).after c.now (c.session.step i).2).deadlines c.session i (c.session.step i) := by
  obtain ⟨t, hdeadlines, hcoherent⟩ := h.coherent
  refine ⟨t, hdeadlines, ?_⟩
  rw [← hdeadlines]
  refine (c.session.step_transition i).course h.isOpen hdue.ne_close (hcoherent.fits.step i ?_)
  rintro timer rfl
  cases hdue with
  | timer hget =>
    rw [hdeadlines]
    exact Option.isSome_of_eq_some hget

theorem Fed.course (h : Fed c i d) (hlinked : Linked config c) (hdue : Due c i) :
    Session.Course c.deadlines d.deadlines c.session i (c.session.step i) := by
  obtain ⟨t, hdeadlines, hcourse⟩ := hlinked.course hdue
  rw [h.deadlines t hdeadlines]
  exact hcourse

/-- The connection as something begins to happen to its session. -/
inductive Taken (c : Connection Simulator) : SessionInput → Connection Simulator → Prop
  | frame {frame : Bytes} {rest : List Bytes} (h : c.frames = frame :: rest) :
      Taken c (.frame frame) { c with frames := rest }
  | timer {timer : Timer} {due : Nat} (h : c.deadlines.get timer = some due) (hdue : due ≤ c.now) :
      Taken c (.timer timer) { c with deadlines := c.deadlines.set timer none }
  | update {changes : List Change} (h : c.arriving = []) : Taken c (.update changes) c

/-- A frame that is to be handled is all that is on its way. -/
theorem Linked.arriving_of_frame (h : Linked config c) {frame : Bytes} {rest : List Bytes}
    (hframes : c.frames = frame :: rest) :
    c.arriving = [frame] ∧ { c with frames := rest }.arriving = [] := by
  have hcons : c.arriving = frame :: { c with frames := rest }.arriving := by
    rw [arriving, hframes]
    rfl
  rcases h.answers with hnil | ⟨-, hanswers, -⟩
  · rw [hnil] at hcons
    cases hcons
  · rw [hcons] at hanswers ⊢
    generalize { c with frames := rest }.arriving = others at hanswers
    cases hanswers <;> exact ⟨rfl, rfl⟩

theorem Linked.due (h : Linked config c) (ht : Taken c i e) : Due c i := by
  cases ht with
  | frame hframes => exact .frame (h.arriving_of_frame hframes).1
  | timer hget hdue => exact .timer hget hdue
  | update harriving => exact .update harriving

/-- Nothing else is on its way as an exchange ends or a request is made. -/
theorem Linked.arriving_eq_nil (h : Linked config c) (ht : Taken c i e)
    (hends : c.session.state = .idle ∨ i = .timer .response ∨ c.session.endsExchange i = true) :
    e.arriving = [] := by
  cases ht with
  | frame hframes => exact (h.arriving_of_frame hframes).2
  | update harriving => exact harriving
  | @timer timer due hget hdue =>
    show c.arriving = []
    rcases h.answers with hnil | ⟨hawaiting, -, hlater⟩
    · exact hnil
    · rcases hends with hidle | hresponse | hends
      · rw [hidle] at hawaiting
        cases hawaiting
      · cases hresponse
        exact absurd hdue (Nat.not_le.2 (hlater due hget))
      · cases timer with
        | response => exact absurd hdue (Nat.not_le.2 (hlater due hget))
        | statusPoll | heartbeat => cases hends

/-- What taking something from a connection leaves as it is. -/
structure Kept (c e : Connection Simulator) : Prop where
  session : e.session = c.session
  now : e.now = c.now
  board : e.board = c.board
  peer : e.peer = c.peer
  sent : e.sent = c.sent
  line : e.line = c.line
  inbound : e.inbound = c.inbound
  opening : e.opening = c.opening
  reading : e.reading = c.reading
  hungUp : e.hungUp = c.hungUp

theorem Taken.kept (h : Taken c i e) : Kept c e := by
  cases h <;> exact ⟨rfl, rfl, rfl, rfl, rfl, rfl, rfl, rfl, rfl, rfl⟩

theorem Taken.deadlines (h : Taken c i e) {t : Timers} (ht : t.deadlines = c.deadlines) :
    (t.expire i).deadlines = e.deadlines := by
  cases h with
  | frame | update => exact ht
  | timer => exact congrArg (Deadlines.set · _ none) ht

/-- Carrying out what the session wants does to the connection what the actions say. -/
theorem Linked.executed (h : Linked config c) (ht : Taken c i e) :
    Executed { e with session := (c.session.step i).1 } (c.session.step i).2 (e.feed i) := by
  rw [← ht.kept.session]
  exact Connection.executed (by rw [ht.kept.line, h.bound]) _

/-- What is delivered after something has happened to the session: what was on its way, and then
what the simulator answers to the frames that are sent. -/
theorem Linked.delivered (h : Linked config c) (ht : Taken c i e) :
    ∃ capacity, 78 ≤ capacity ∧ (e.feed i).line.assembler.pushAll (e.feed i).inbound =
      ((Assembler.pushAll { capacity } (c.peer.serve (Action.frames (c.session.step i).2)).2).1,
        (e.line.assembler.pushAll e.inbound).2 ++ (Assembler.pushAll { capacity }
          (c.peer.serve (Action.frames (c.session.step i).2)).2).2) := by
  obtain ⟨capacity, hcap, hwhole⟩ := h.whole
  have hline : (e.feed i).line = e.line := line_execute _ _
  refine ⟨capacity, hcap, ?_⟩
  rw [hline, (h.executed ht).inbound, Assembler.pushAll_append, ht.kept.line, ht.kept.inbound,
    ht.kept.peer, hwhole]

/-- Nothing else is on its way as a request is made, so what arrives is the answer to it. -/
theorem Linked.arriving_of_requests (h : Linked config c) (ht : Taken c i e)
    (hrequests : c.session.Requests (c.session.step i)) {capacity : Nat} {frames : List Bytes}
    (hpush : (e.feed i).line.assembler.pushAll (e.feed i).inbound =
      ({ capacity }, (e.line.assembler.pushAll e.inbound).2 ++ frames)) :
    (e.feed i).arriving = frames := by
  have hframes : (e.feed i).frames = e.frames := frames_execute _ _
  obtain ⟨t, -, hcourse⟩ := h.course (h.due ht)
  rcases hcourse.sends with hquiet | ⟨-, hends⟩
  · exact absurd hquiet hrequests.not_quiet
  · rw [arriving, hframes, hpush, ← List.append_assoc]
    exact congrArg (· ++ frames) (h.arriving_eq_nil ht hends)

/-- What arrives after something has happened to the session: with nothing sent, what was on its way
is left; a request that is made is answered. -/
theorem Linked.arrives (h : Linked config c) (ht : Taken c i e) :
    (∃ capacity, 78 ≤ capacity ∧
      ((e.feed i).line.assembler.pushAll (e.feed i).inbound).1 = { capacity }) ∧
    (Action.sends (c.session.step i).2 = 0 ∧ (e.feed i).arriving = e.arriving ∧
        (e.feed i).peer = c.peer ∨
      c.session.Requests (c.session.step i) ∧
        (e.feed i).peer.Answers (c.session.step i).1.state (e.feed i).arriving) := by
  obtain ⟨capacity, hcap, hpush⟩ := h.delivered ht
  have hpeer : (e.feed i).peer = (c.peer.serve (Action.frames (c.session.step i).2)).1 := by
    rw [(h.executed ht).peer, ht.kept.peer]
  have hframes : (e.feed i).frames = e.frames := frames_execute _ _
  obtain ⟨t, -, hcourse⟩ := h.course (h.due ht)
  rcases hcourse.sends with hquiet | ⟨hrequests, -⟩
  · rw [Action.frames_eq_nil hquiet] at hpeer hpush
    refine ⟨⟨capacity, hcap, congrArg Prod.fst hpush⟩, .inl ⟨hquiet, ?_, hpeer⟩⟩
    rw [arriving, hframes, hpush, arriving]
    exact congrArg (e.frames ++ ·) (List.append_nil _)
  · obtain ⟨before, frame, hasks⟩ := hrequests
    obtain ⟨frames, hdelivered, hanswers⟩ :=
      Simulator.answers_of_asks (p := c.peer) hasks hcap
    rw [hasks.frames] at hpeer hpush
    rw [hdelivered] at hpush
    refine ⟨⟨capacity, hcap, congrArg Prod.fst hpush⟩, .inr ⟨⟨before, frame, hasks⟩, ?_⟩⟩
    obtain ⟨hsilent, hcorrupt⟩ := c.peer.switches_serve [frame]
    rw [h.arriving_of_requests ht ⟨before, frame, hasks⟩ hpush, hpeer]
    exact hanswers.congr hsilent hcorrupt

/-- The answer to a status request is the status of the simulator, as the switches leave it. -/
theorem Linked.arriving_of_statusRequest (h : Linked config c) (ht : Taken c i e)
    (hrequests : c.session.Requests (c.session.step i))
    (hs : (c.session.step i).1.state = .awaitInitialStatus ∨
      (c.session.step i).1.state = .awaitStatus) :
    (e.feed i).arriving = ((c.peer.switched c.peer.status.encode).map List.dropLast).toList := by
  obtain ⟨capacity, hcap, hpush⟩ := h.delivered ht
  have hrequests' := hrequests
  obtain ⟨before, frame, hasks⟩ := hrequests'
  rw [hasks.frames, hasks.status hs, c.peer.pushAll_serve_statusRequest hcap] at hpush
  exact h.arriving_of_requests ht hrequests hpush

theorem Linked.fed (h : Linked config c) (ht : Taken c i e) : Fed c i (e.feed i) := by
  have hd := h.executed ht
  have hkept := ht.kept
  obtain ⟨-, harrives⟩ := h.arrives ht
  constructor
  case session => exact hd.session
  case now => exact (now_execute _ _).trans hkept.now
  case deadlines =>
    intro t hdeadlines
    rw [hd.deadlines _ (ht.deadlines hdeadlines)]
    show _ = (Timers.after c.now _ _).deadlines
    rw [← hkept.now]
  case published => rw [hd.published, ← hkept.board]
  case commsOk => rw [hd.commsOk, ← hkept.board]
  case sent => rw [hd.sent, ← hkept.sent]
  case peer => rw [hd.peer, ← hkept.peer]
  case used =>
    rintro hquiet frame rfl
    rcases harrives with ⟨-, harriving, -⟩ | ⟨hrequests, -⟩
    · rw [harriving]
      cases ht with
      | frame hframes => exact (h.arriving_of_frame hframes).2
    · exact absurd hquiet hrequests.not_quiet
  case kept =>
    intro hquiet hne
    rcases harrives with ⟨-, harriving, -⟩ | ⟨hrequests, -⟩
    · rw [harriving]
      cases ht with
      | frame => exact absurd rfl (hne _)
      | timer | update => rfl
    · exact absurd hquiet hrequests.not_quiet
  case answers =>
    intro hrequests
    rw [hd.session]
    rcases harrives with ⟨hquiet, -⟩ | ⟨-, hanswers⟩
    · exact absurd hquiet hrequests.not_quiet
    · exact hanswers

/-- What happens to the session leaves the connection linked. -/
theorem Linked.feed (h : Linked config c) (ht : Taken c i e)
    (hreaches : ∃ log, Reaches config log (e.feed i)) : Linked config (e.feed i) := by
  have hfed := h.fed ht
  have hkept := ht.kept
  have hcourse := hfed.course h (h.due ht)
  obtain ⟨hwhole, harrives⟩ := h.arrives ht
  constructor
  case reaches => exact hreaches
  case opening => exact (opening_feed _ _).trans (hkept.opening.trans h.opening)
  case isOpen =>
    rw [hfed.session]
    exact (c.session.step_transition i).ne_closed h.isOpen (h.due ht).ne_close
  case reading => exact (reading_execute _ _).trans (hkept.reading.trans h.reading)
  case hungUp => exact (hungUp_execute _ _).trans (hkept.hungUp.trans h.hungUp)
  case bound =>
    have hline : (e.feed i).line = c.line := (line_execute _ _).trans hkept.line
    rw [hline, h.bound]
  case handled =>
    have hline : (e.feed i).line = c.line := (line_execute _ _).trans hkept.line
    rw [hline, h.handled]
  case whole => exact hwhole
  case commsOk =>
    rw [hfed.commsOk, hfed.edges, h.commsOk]
    split
    · rename_i hsame
      exact hsame.symm
    · rfl
  case inPeriod =>
    have hpaced := c.session.paced_step i
    rw [h.timing] at hpaced
    rw [hfed.now, hfed.deadlines { deadlines := c.deadlines } rfl]
    exact Timers.InPeriod.after (Timers.InPeriod.expire h.inPeriod i) hpaced
  case answers =>
    rcases harrives with ⟨hquiet, harriving, hpeer⟩ | ⟨hrequests, hanswers⟩
    · rw [harriving]
      cases hcourse with
      | lasts hstate _ _ _ _ hresponse =>
        cases ht with
        | frame hframes => exact .inl (h.arriving_of_frame hframes).2
        | timer | update =>
          -- the exchange lasts, so its reply is still on its way
          rcases h.answers with hnil | ⟨hawaiting, hanswers, hlater⟩
          · exact .inl hnil
          · refine .inr ⟨?_, ?_, fun due hget => ?_⟩
            · rw [hfed.session, hstate]
              exact hawaiting
            · rw [hfed.session, hstate, hpeer]
              exact hanswers
            · rw [hresponse hawaiting] at hget
              rw [hfed.now]
              exact hlater due hget
      | begins _ _ hrequests | retries _ _ _ _ hrequests => exact absurd hquiet hrequests.not_quiet
      | ends hsettles => exact .inl (h.arriving_eq_nil ht (.inr (.inr hsettles.endsExchange)))
    · refine .inr ⟨?_, ?_, fun due hget => ?_⟩
      · rw [hfed.session]
        exact hrequests.isAwaiting
      · rw [hfed.session]
        exact hanswers
      · rw [hfed.deadlines { deadlines := c.deadlines } rfl, hrequests.response] at hget
        cases hget
        rw [hfed.now, h.timing]
        exact Nat.lt_add_of_pos_right (h.period_pos .response)

/-! ## Moves -/

/-- The session has been left alone. If time has passed, nothing was on its way. -/
structure Quiet (c d : Connection Simulator) : Prop where
  session : d.session = c.session
  deadlines : d.deadlines = c.deadlines
  board : d.board = c.board
  peer : d.peer = c.peer
  sent : d.sent = c.sent
  arriving : d.arriving = c.arriving
  now : d.now = c.now ∨ c.arriving = [] ∧ c.now ≤ d.now

/-- **What a move is to the session.** -/
inductive Happens (c d : Connection Simulator) : Prop
  | quiet (h : Quiet c d)
  | fed {i : SessionInput} (hdue : Due c i) (h : Fed c i d)

theorem Linked.arriving_of_still (h : Linked config c) (hrun : c.running = true)
    (hstill : c.proceed? = none) : c.arriving = [] := by
  obtain ⟨hframes, hread⟩ := takeIn?_eq_none_iff.1 (proceed?_eq_none_iff.1 hstill hrun).1
  rw [arriving, hframes, (hread h.reading).1]
  rfl

theorem Linked.readChunk (h : Linked config c) {chunk : Bytes} {rest : List Bytes}
    (hinbound : c.inbound = chunk :: rest)
    (hreaches : ∃ log, Reaches config log ({ c with inbound := rest }.readChunk chunk)) :
    Linked config ({ c with inbound := rest }.readChunk chunk) ∧
      Quiet c ({ c with inbound := rest }.readChunk chunk) := by
  have hpush : c.line.assembler.pushAll c.inbound =
      (((c.line.assembler.push chunk).1.pushAll rest).1,
        (c.line.assembler.push chunk).2 ++ ((c.line.assembler.push chunk).1.pushAll rest).2) := by
    rw [hinbound]
    rfl
  have harriving : ({ c with inbound := rest }.readChunk chunk).arriving = c.arriving := by
    have hdelivered : (c.line.receive chunk).delivered.map Prod.snd =
        (c.line.assembler.push chunk).2 := by
      simp only [Line.receive, h.handled, List.map_map]
      exact List.map_id _
    show (c.frames ++ (c.line.receive chunk).delivered.map Prod.snd) ++
      ((c.line.assembler.push chunk).1.pushAll rest).2 = c.arriving
    rw [hdelivered, arriving, hpush, List.append_assoc]
  have hwhole : (({ c with inbound := rest }.readChunk chunk).line.assembler.pushAll rest).1 =
      (c.line.assembler.pushAll c.inbound).1 := by
    rw [hpush]
    rfl
  refine ⟨?_, ⟨rfl, rfl, rfl, rfl, rfl, harriving, .inl rfl⟩⟩
  exact { h with
    reaches := hreaches
    whole := by
      obtain ⟨capacity, hcap, hc⟩ := h.whole
      exact ⟨capacity, hcap, hwhole.trans hc⟩
    answers := by
      rw [harriving]
      exact h.answers }

theorem Linked.wait (h : Linked config c) (hrun : c.running = true) (hstill : c.proceed? = none)
    {time : Nat} (hle : c.now ≤ time)
    (hreaches : ∃ log, Reaches config log { c with now := time }) :
    Linked config { c with now := time } ∧ Quiet c { c with now := time } := by
  have harriving := h.arriving_of_still hrun hstill
  refine ⟨?_, ⟨rfl, rfl, rfl, rfl, rfl, rfl, .inr ⟨harriving, hle⟩⟩⟩
  exact { h with
    reaches := hreaches
    inPeriod := fun timer due hget =>
      Nat.le_trans (h.inPeriod timer due hget) (Nat.add_le_add_right hle _)
    answers := .inl harriving }

/-- **Moves leave a connection linked**, as long as it runs. -/
theorem Linked.move (h : Linked config c) (hm : Move c d) (hrun : d.running = true) :
    Linked config d ∧ Happens c d := by
  have hreaches : ∃ log, Reaches config log d := by
    obtain ⟨log, hc⟩ := h.reaches
    obtain ⟨next, ht⟩ := hm.exists_turn
    exact ⟨_, hc.turn h.opening ht⟩
  have hfeed {i : SessionInput} {e : Connection Simulator} (ht : Taken c i e) (hd : d = e.feed i) :
      Linked config d ∧ Happens c d := by
    subst hd
    exact ⟨h.feed ht hreaches, .fed (h.due ht) (h.fed ht)⟩
  have hbefore := hm.running hrun
  cases hm with
  | proceed hproceed =>
    cases proceeds_of_proceed? hproceed with
    | frame hframes => exact hfeed (.frame hframes) (handleFrame_eq_feed _ _)
    | chunk hinbound =>
      obtain ⟨hd, hquiet⟩ := h.readChunk hinbound hreaches
      exact ⟨hd, .quiet hquiet⟩
    | streamEnd hhungUp => exact absurd (h.hungUp.symm.trans hhungUp) nofun
    | shutDown => cases hrun
  | serve hget hdue => exact hfeed (.timer hget hdue) (fire_eq_feed hget hdue)
  | request hstill hr =>
    exact hfeed (.update (h.arriving_of_still hbefore hstill)) (execute_eq_feed hr)
  | wait hstill hle =>
    obtain ⟨hd, hquiet⟩ := h.wait hbefore hstill hle hreaches
    exact ⟨hd, .quiet hquiet⟩

end Connection

end DomeLink
