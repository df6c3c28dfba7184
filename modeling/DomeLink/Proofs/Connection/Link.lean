import DomeLink.Proofs.Connection.Healthy

/-!
# The link is tracked in bounded time

A connection with a simulator finds out in bounded time whether the simulator answers.

* With a simulator that is silent or corrupt, an established session fails its next exchange: it is
  in one whose response timer is due soon, or it is at rest and asks for the status soon
  (`Failing`). Once the link is lost it stays lost.
* With a simulator that answers, the exchange that the session is in may have lost its reply. When
  it has timed out, replies are prompt, and the next heartbeat at the latest sends a command, whose
  acknowledgement brings the link back (`Recovering`).

`Used.tracks_link` says both of every connection that is used.
-/

namespace DomeLink.Connection

variable {config : Config} {s c d : Connection Simulator} {i : SessionInput}

/-- The timer runs and is due by then. -/
def DueBy (c : Connection Simulator) (timer : Timer) (time : Nat) : Prop :=
  ∃ due, c.deadlines.get timer = some due ∧ due ≤ time

theorem DueBy.congr {timer : Timer} {time : Nat} (h : DueBy c timer time)
    (hsame : d.deadlines.get timer = c.deadlines.get timer) : DueBy d timer time := by
  obtain ⟨due, hget, hle⟩ := h
  exact ⟨due, hsame.trans hget, hle⟩

theorem DueBy.now_lt {timer : Timer} {time : Nat} (h : DueBy c timer time)
    (hsteady : Steady config c) (hlinked : Linked config c) : c.now < time := by
  obtain ⟨due, hget, hle⟩ := h
  exact Nat.lt_of_lt_of_le (hsteady.now_lt hlinked.opening hget) hle

theorem Linked.dueBy_of_isSome (h : Linked config c) {timer : Timer}
    (hruns : (c.deadlines.get timer).isSome = true) :
    DueBy c timer (c.now + config.timing.period timer) := by
  obtain ⟨due, hget⟩ := Option.isSome_iff_exists.1 hruns
  exact ⟨due, hget, h.inPeriod timer due hget⟩

theorem Linked.dueBy_response (h : Linked config c)
    (hawaiting : c.session.state.isAwaiting = true) :
    DueBy c .response (c.now + config.timing.period .response) := by
  obtain ⟨t, hdeadlines, hcoherent⟩ := h.coherent
  refine h.dueBy_of_isSome ?_
  rw [← hdeadlines]
  exact hcoherent.fits.response_isSome_iff.2 hawaiting

theorem Linked.dueBy_polls (h : Linked config c)
    (hestablished : c.session.state.isEstablished = true) :
    DueBy c .statusPoll (c.now + config.timing.period .statusPoll) ∧
      DueBy c .heartbeat (c.now + config.timing.period .heartbeat) := by
  obtain ⟨t, hdeadlines, hcoherent⟩ := h.coherent
  have hpolls := hcoherent.fits.polls hestablished
  constructor
  · refine h.dueBy_of_isSome ?_
    rw [← hdeadlines]
    exact hpolls.statusPoll
  · refine h.dueBy_of_isSome ?_
    rw [← hdeadlines]
    exact hpolls.heartbeat

theorem Fed.dueBy_response (h : Fed c i d) (hlinked : Linked config c)
    (hrequests : c.session.Requests (c.session.step i)) :
    DueBy d .response (c.now + config.timing.period .response) := by
  refine ⟨_, ?_, Nat.le_refl _⟩
  have hdeadlines := h.deadlines { deadlines := c.deadlines } rfl
  rw [hdeadlines, ← hlinked.timing]
  exact hrequests.response

/-! ## A simulator that does not answer -/

/-- What has been told of the link since `s`: nothing, or that it is lost. -/
def ToldOnce (s c : Connection Simulator) : Prop :=
  ∃ between, c.board.published = s.board.published ++ between ∧
    (between.filterMap Action.edge? = [] ∧ c.session.commsOk = s.session.commsOk ∨
      between.filterMap Action.edge? = [false] ∧ c.session.commsOk = false)

/-- **The simulator has not answered since** `s`: the link is lost, or the exchange that will show
that ends soon. -/
structure Failing (config : Config) (s c : Connection Simulator) : Prop where
  spoilt : c.peer.silent = true ∨ c.peer.corrupt = true
  established : c.session.state.isEstablished = true
  told : ToldOnce s c
  soon : c.session.commsOk = true →
    c.session.state = .idle ∧ DueBy c .statusPoll (s.now + config.timing.period .statusPoll) ∨
      c.session.state.isAwaiting = true ∧ DueBy c .response
        (s.now + config.timing.period .statusPoll + config.timing.period .response)

/-- What is due is refused, or no frame. -/
theorem Linked.refused (h : Linked config c) (hdue : Due c i)
    (hspoilt : c.peer.silent = true ∨ c.peer.corrupt = true) :
    ∀ frame, i = .frame frame → Frame.Refused frame := by
  rintro frame rfl
  cases hdue with
  | frame harriving =>
    rcases h.answers with hnil | ⟨-, hanswers, -⟩
    · exact absurd (harriving.symm.trans hnil) nofun
    · rw [harriving] at hanswers
      cases hanswers with
      | corrupt _ _ hrefused => exact hrefused
      | good hsilent hcorrupt =>
        rcases hspoilt with hs | hc
        · exact absurd (hsilent.symm.trans hs) nofun
        · exact absurd (hcorrupt.symm.trans hc) nofun

theorem ToldOnce.fed (h : ToldOnce s c) (hfed : Fed c i d)
    (hlost : c.session.commsOk = false → d.session.commsOk = false) : ToldOnce s d := by
  obtain ⟨between, hpublished, htold⟩ := h
  refine ⟨between ++ Action.events (c.session.step i).2, ?_, ?_⟩
  · rw [hfed.published, hpublished, List.append_assoc]
  · rw [List.filterMap_append]
    show between.filterMap Action.edge? ++ Action.edges (c.session.step i).2 = [] ∧ _ ∨
      between.filterMap Action.edge? ++ Action.edges (c.session.step i).2 = [false] ∧ _
    rw [hfed.edges]
    by_cases hsame : d.session.commsOk = c.session.commsOk
    · rw [if_pos hsame, List.append_nil, hsame]
      exact htold
    · rw [if_neg hsame]
      have hbefore : c.session.commsOk = true := by
        by_contra hfalse
        have hoff := Bool.eq_false_iff.2 hfalse
        exact hsame ((hlost hoff).trans hoff.symm)
      have hafter : d.session.commsOk = false := by
        rw [hbefore] at hsame
        exact Bool.eq_false_iff.2 hsame
      rcases htold with ⟨hnone, -⟩ | ⟨-, hoff⟩
      · right
        rw [hnone, hafter]
        exact ⟨rfl, rfl⟩
      · exact absurd (hbefore.symm.trans hoff) nofun

theorem Failing.happens (h : Failing config s c) (hlinked : Linked config c)
    (hd : Happens c d) : Failing config s d := by
  cases hd with
  | quiet hquiet =>
    constructor
    · rw [hquiet.peer]
      exact h.spoilt
    · rw [hquiet.session]
      exact h.established
    · obtain ⟨between, htold⟩ := h.told
      rw [← hquiet.board, ← hquiet.session] at htold
      exact ⟨between, htold⟩
    · rw [hquiet.session, DueBy, DueBy, hquiet.deadlines]
      exact h.soon
  | @fed i hdue hfed =>
    have hrefused := hlinked.refused hdue h.spoilt
    have hcourse := hfed.course hlinked hdue
    have hlost : c.session.commsOk = false → d.session.commsOk = false := by
      rw [hfed.session]
      exact hcourse.commsOk_of_refused hrefused
    constructor
    · rw [hfed.switches.1, hfed.switches.2]
      exact h.spoilt
    · rw [hfed.session]
      exact (c.session.step_transition i).established h.established hdue.ne_close
    · exact h.told.fed hfed hlost
    · intro hok
      have hbefore : c.session.commsOk = true := by
        by_contra hfalse
        exact absurd (hok.symm.trans (hlost (Bool.eq_false_iff.2 hfalse))) nofun
      rw [hfed.session] at hok ⊢
      cases hcourse with
      | lasts hstate _ _ _ _ hresponse hpoll =>
        rw [hstate]
        rcases h.soon hbefore with ⟨hidle, hsoon⟩ | ⟨hawaiting, hsoon⟩
        · exact .inl ⟨hidle, hsoon.congr (hpoll hidle)⟩
        · exact .inr ⟨hawaiting, hsoon.congr (hresponse hawaiting)⟩
      | begins hidle _ hrequests =>
        -- the status is asked for when its time has come, if nothing else is done before
        refine .inr ⟨hrequests.isAwaiting, ?_⟩
        rcases h.soon hbefore with ⟨-, due, hget, hdue⟩ | ⟨hawaiting, -⟩
        · obtain ⟨response, hresponse, hle⟩ := hfed.dueBy_response hlinked hrequests
          have hnow := hlinked.now_le hget
          exact ⟨response, hresponse, by omega⟩
        · rw [hidle] at hawaiting
          cases hawaiting
      | retries hinitial =>
        have hestablished := h.established
        rw [hinitial] at hestablished
        cases hestablished
      | ends ht hr =>
        rw [hr, Session.commsOk_resolve, ht.commsOk_of_refused hrefused] at hok
        cases hok

/-! ## A simulator that answers -/

/-- **The reply that the session waits for is lost**: the exchange ends soon, and a command waits
for that or goes out soon. -/
structure Lost (config : Config) (s c : Connection Simulator) : Prop where
  silent : c.peer.silent = false
  corrupt : c.peer.corrupt = false
  gone : c.arriving = []
  awaiting : c.session.state.isAwaiting = true
  ends : DueBy c .response (s.now + config.timing.period .response)
  next : c.session.state = .awaitInitialStatus ∨ c.session.commandPending = true ∨
    DueBy c .heartbeat (s.now + config.timing.period .heartbeat)

/-- **Replies are prompt**, and the link is there or a command goes out soon. -/
structure Found (config : Config) (s c : Connection Simulator) : Prop where
  prompt : Prompt c
  next : c.session.Recovers ∨ DueBy c .heartbeat (s.now + config.timing.period .heartbeat)

/-- **The simulator has answered since** `s`. -/
def Recovering (config : Config) (s c : Connection Simulator) : Prop :=
  Lost config s c ∨ Found config s c

/-- The heartbeat is put off, but the session recovers then. -/
theorem DueBy.fed {time : Nat} (h : DueBy c .heartbeat time) (hfed : Fed c i d)
    (hlinked : Linked config c) (hdue : Due c i) :
    d.session.Recovers ∨ DueBy d .heartbeat time := by
  have hputsOff : Session.PutsOff c.now { deadlines := c.deadlines } _ _ :=
    Session.putsOff_step hlinked.isOpen hdue.ne_close
  rcases hputsOff with hsame | hrecovers
  · refine .inr (h.congr ?_)
    rw [hfed.deadlines { deadlines := c.deadlines } rfl]
    exact hsame
  · left
    rw [hfed.session]
    rcases hrecovers with hack | hwaits | hok
    · exact .inr (.inr (.inl hack))
    · exact .inr (.inr (.inr hwaits))
    · exact .inl hok

/-- The exchange whose reply is lost ends with its response timer, and replies are prompt then. -/
theorem Lost.happens (h : Lost config s c) (hlinked : Linked config c) (hd : Happens c d) :
    Recovering config s d := by
  cases hd with
  | quiet hquiet =>
    left
    constructor
    · rw [hquiet.peer, h.silent]
    · rw [hquiet.peer, h.corrupt]
    · rw [hquiet.arriving, h.gone]
    · rw [hquiet.session, h.awaiting]
    · rw [DueBy, hquiet.deadlines]
      exact h.ends
    · rw [hquiet.session, DueBy, hquiet.deadlines]
      exact h.next
  | @fed i hdue hfed =>
    have hne : ∀ frame, i ≠ .frame frame := by
      rintro frame rfl
      cases hdue with
      | frame harriving => exact absurd (h.gone.symm.trans harriving) nofun
    have hcourse := hfed.course hlinked hdue
    cases hcourse with
    | lasts hstate _ hpending hsends _ hresponse _ hheartbeat =>
      left
      constructor
      · exact hfed.switches.1.trans h.silent
      · exact hfed.switches.2.trans h.corrupt
      · exact (hfed.kept hsends hne).trans h.gone
      · rw [hfed.session, hstate, h.awaiting]
      · exact h.ends.congr (hresponse h.awaiting)
      · rw [hfed.session, hstate]
        rcases h.next with hinitial | hwaits | hbeat
        · exact .inl hinitial
        · exact .inr (.inl (hpending hwaits))
        · by_cases hinitial : c.session.state = .awaitInitialStatus
          · exact .inl hinitial
          · right
            rcases hheartbeat (SessionState.isEstablished_of_isAwaiting h.awaiting hinitial) with
              hsame | hwaits
            · exact .inr (hbeat.congr hsame)
            · exact .inl hwaits
    | begins hidle =>
      have hawaiting := h.awaiting
      rw [hidle] at hawaiting
      cases hawaiting
    | retries _ _ hstate _ hrequests =>
      refine .inr ⟨hfed.prompt h.silent h.corrupt fun _ => .inr hrequests, .inl ?_⟩
      rw [hfed.session]
      exact .inr (.inl hstate)
    | ends ht hr hrequests =>
      refine .inr ⟨hfed.prompt h.silent h.corrupt fun hawaiting => .inr ?_, ?_⟩
      · rcases hrequests with ⟨hidle, -⟩ | hrequests
        · rw [hfed.session, hidle] at hawaiting
          cases hawaiting
        · exact hrequests
      · rcases h.next with hinitial | hwaits | hbeat
        · -- the time for the initial status does not end that exchange
          exact absurd hinitial (ht.ne_awaitInitialStatus hne)
        · left
          rw [hfed.session, hr]
          exact Session.recovers_resolve (.inr (ht.commandPending hwaits))
        · exact hbeat.fed hfed hlinked hdue

theorem Found.happens (h : Found config s c) (hlinked : Linked config c) (hd : Happens c d) :
    Found config s d := by
  refine ⟨h.prompt.happens hlinked hd, ?_⟩
  cases hd with
  | quiet hquiet =>
    rw [hquiet.session, DueBy, hquiet.deadlines]
    exact h.next
  | fed hdue hfed =>
    rcases h.next with hrecovers | hbeat
    · left
      rw [hfed.session]
      exact (hfed.course hlinked hdue).recovers (h.prompt.heard hlinked hdue) hlinked.rest hrecovers
    · exact hbeat.fed hfed hlinked hdue

/-! ## From one settled instant to another -/

/-- Everything has happened that can happen at this instant. -/
structure Settled (c : Connection Simulator) : Prop where
  begun : c.opening = []
  still : c.proceed? = none

/-- A connection has settled after time has passed. -/
theorem settled_sleep (h : Steady config c) (ms : Nat) : Settled (c.sleep ms) := by
  obtain ⟨hm, hstill⟩ := moves_sleep h ms
  refine ⟨?_, hstill⟩
  exact hm.keep (P := fun d => d.opening = []) (fun _ _ hc hmove => hmove.opening.trans hc)
    (opening_settle c)

/-- Changing the simulator does not unsettle a connection. -/
theorem Settled.simulator (h : Settled c) (peer : Simulator) : Settled { c with peer } := by
  refine ⟨h.begun, ?_⟩
  have hstill := h.still
  rw [proceed?_eq_none_iff, takeIn?_eq_none_iff] at hstill ⊢
  exact hstill

/-- **The link is tracked** from `s` to `c`. -/
structure TracksLink (config : Config) (s c : Connection Simulator) : Prop where
  /-- A simulator that does not answer is noticed in time once the initial status has been taken
  in. -/
  lost : s.session.state.isEstablished = true → s.peer.silent = true ∨ s.peer.corrupt = true →
    s.now + config.timing.statusPollMs.toNat + config.timing.responseTimeoutMs.toNat ≤ c.now →
      c.board.commsOk = false
  /-- That is told once at most, and nothing to the contrary is told. -/
  told : s.session.state.isEstablished = true → s.peer.silent = true ∨ s.peer.corrupt = true →
    ∃ between, c.board.published = s.board.published ++ between ∧
      between.count (.commsChanged false) ≤ 1 ∧ .commsChanged true ∉ between
  /-- A simulator that answers is noticed in time. -/
  found : s.peer.silent = false → s.peer.corrupt = false →
    s.now + max config.timing.heartbeatMs.toNat config.timing.responseTimeoutMs.toNat ≤ c.now →
      c.board.commsOk = true

theorem count_commsChanged (events : List SessionEvent) (ok : Bool) :
    events.count (.commsChanged ok) = (events.filterMap Action.edge?).count ok := by
  induction events with
  | nil => rfl
  | cons event events ih =>
    rw [List.count_cons, ih, List.filterMap_cons]
    cases event with
    | commsChanged other =>
      show _ = (other :: events.filterMap Action.edge?).count ok
      rw [List.count_cons]
      simp
    | statusUpdated | handsetChanged => simp [Action.edge?]

theorem ToldOnce.exists_between (h : ToldOnce s c) :
    ∃ between, c.board.published = s.board.published ++ between ∧
      between.count (.commsChanged false) ≤ 1 ∧ .commsChanged true ∉ between := by
  obtain ⟨between, hpublished, htold⟩ := h
  refine ⟨between, hpublished, ?_, ?_⟩
  · rw [count_commsChanged]
    rcases htold with ⟨hnone, -⟩ | ⟨hlost, -⟩
    · rw [hnone]
      decide
    · rw [hlost]
      decide
  · rw [← List.count_eq_zero, count_commsChanged]
    rcases htold with ⟨hnone, -⟩ | ⟨hlost, -⟩
    · rw [hnone]
      rfl
    · rw [hlost]
      rfl

/-- A settled connection is between two operations. -/
theorem Used.between_of_settled (hs : Used config s) (hsettled : Settled s)
    {P : Connection Simulator → Prop} (hP : Linked config s → s.arriving = [] → P s) :
    Between config (fun _ => False) P s where
  steady := hs.between.steady
  running := by
    intro hrun
    rcases hs.between.running hrun with ⟨hfresh, -⟩ | ⟨hlinked, harriving, -⟩
    · exact absurd (hfresh.opening.symm.trans hsettled.begun) nofun
    · exact .inr ⟨hlinked, harriving, hP hlinked harriving⟩

/-- What moves and changes of the hardware keep holds at the end of deeds. -/
theorem Between.after_deeds {P : Connection Simulator → Prop}
    (h : Between config (fun _ => False) P s)
    (hhappens : ∀ c d, Linked config c → Happens c d → P c → P d)
    (hhardware : ∀ c change, P c → P (perform c (.hardware change))) (deeds : List Deed)
    (hrun : (s.performAll deeds).settle.running = true) :
    Steady config (s.performAll deeds).settle ∧ Linked config (s.performAll deeds).settle ∧
      (s.performAll deeds).settle.arriving = [] ∧ P (s.performAll deeds).settle := by
  have hk : Keeps config (fun _ => False) P := ⟨fun _ _ _ hfalse => hfalse.elim, hhappens⟩
  have hafter := h.performAll hk (fun _ _ hfalse => hfalse) hhardware deeds
  exact ⟨hafter.steady.settle.1, hafter.settled hk hrun⟩

theorem failing_after_deeds (hs : Used config s) (hsettled : Settled s)
    (hestablished : s.session.state.isEstablished = true)
    (hspoilt : s.peer.silent = true ∨ s.peer.corrupt = true) (deeds : List Deed)
    (hrun : (s.performAll deeds).settle.running = true) :
    Steady config (s.performAll deeds).settle ∧ Linked config (s.performAll deeds).settle ∧
      Failing config s (s.performAll deeds).settle := by
  have hbetween : Between config (fun _ => False) (Failing config s) s := by
    refine hs.between_of_settled hsettled fun hlinked _ => ?_
    refine ⟨hspoilt, hestablished, ⟨[], (List.append_nil _).symm, .inl ⟨rfl, rfl⟩⟩, fun _ => ?_⟩
    by_cases hidle : s.session.state = .idle
    · exact .inl ⟨hidle, (hlinked.dueBy_polls hestablished).1⟩
    · have hawaiting := Session.isAwaiting_of_ne hidle hlinked.isOpen
      obtain ⟨due, hget, hle⟩ := hlinked.dueBy_response hawaiting
      exact .inr ⟨hawaiting, due, hget, by omega⟩
  obtain ⟨hsteady, hlinked, -, hfailing⟩ := hbetween.after_deeds
    (fun _ _ hlinked hd hc => hc.happens hlinked hd)
    (fun _ _ hc => ⟨hc.spoilt, hc.established, hc.told, hc.soon⟩) deeds hrun
  exact ⟨hsteady, hlinked, hfailing⟩

theorem recovering_after_deeds (hs : Used config s) (hsettled : Settled s)
    (hsilent : s.peer.silent = false) (hcorrupt : s.peer.corrupt = false) (deeds : List Deed)
    (hrun : (s.performAll deeds).settle.running = true) :
    Steady config (s.performAll deeds).settle ∧ Linked config (s.performAll deeds).settle ∧
      (s.performAll deeds).settle.arriving = [] ∧
        Recovering config s (s.performAll deeds).settle := by
  have hbetween : Between config (fun _ => False) (Recovering config s) s := by
    refine hs.between_of_settled hsettled fun hlinked harriving => ?_
    by_cases hidle : s.session.state = .idle
    · refine .inr ⟨⟨hsilent, hcorrupt, fun hawaiting => ?_⟩, .inr (hlinked.dueBy_polls ?_).2⟩
      · rw [hidle] at hawaiting
        cases hawaiting
      · rw [hidle]
        rfl
    · have hawaiting := Session.isAwaiting_of_ne hidle hlinked.isOpen
      refine .inl ⟨hsilent, hcorrupt, harriving, hawaiting, hlinked.dueBy_response hawaiting, ?_⟩
      by_cases hinitial : s.session.state = .awaitInitialStatus
      · exact .inl hinitial
      · have hestablished := SessionState.isEstablished_of_isAwaiting hawaiting hinitial
        exact .inr (.inr (hlinked.dueBy_polls hestablished).2)
  refine hbetween.after_deeds (fun _ _ hlinked hd hc => ?_) (fun _ change hc => ?_) deeds hrun
  · rcases hc with hlost | hfound
    · exact hlost.happens hlinked hd
    · exact .inr (hfound.happens hlinked hd)
  · rcases hc with hlost | hfound
    · exact .inl { hlost with }
    · exact .inr ⟨hfound.prompt.hardware change, hfound.next⟩

/-- **The link is tracked in bounded time.** A connection that is used and has settled is followed
by any deeds that do not end the session, while the switches of the simulator stay as they are. If
the simulator does not answer, that is noticed within the time to the next status request and its
response timeout; if it does, within the time to the next heartbeat, or the response timeout where
that is longer. -/
theorem Used.tracks_link (hs : Used config s) (hsettled : Settled s) (deeds : List Deed)
    (hrun : (s.performAll deeds).settle.running = true) :
    TracksLink config s (s.performAll deeds).settle := by
  constructor
  case lost =>
    intro hestablished hspoilt htime
    obtain ⟨hsteady, hlinked, hfailing⟩ :=
      failing_after_deeds hs hsettled hestablished hspoilt deeds hrun
    by_contra hok
    rw [hlinked.commsOk, Bool.not_eq_false] at hok
    have hpoll : config.timing.period .statusPoll = config.timing.statusPollMs.toNat := rfl
    have hresponse : config.timing.period .response = config.timing.responseTimeoutMs.toNat := rfl
    rcases hfailing.soon hok with ⟨-, hdue⟩ | ⟨-, hdue⟩
    · have hnow := hdue.now_lt hsteady hlinked
      omega
    · have hnow := hdue.now_lt hsteady hlinked
      omega
  case told =>
    intro hestablished hspoilt
    obtain ⟨-, -, hfailing⟩ := failing_after_deeds hs hsettled hestablished hspoilt deeds hrun
    exact hfailing.told.exists_between
  case found =>
    intro hsilent hcorrupt htime
    obtain ⟨hsteady, hlinked, harriving, hlost | hfound⟩ :=
      recovering_after_deeds hs hsettled hsilent hcorrupt deeds hrun
    · have hnow := hlost.ends.now_lt hsteady hlinked
      have hresponse : config.timing.period .response = config.timing.responseTimeoutMs.toNat := rfl
      omega
    · have hidle := hfound.prompt.idle hlinked harriving
      rw [hlinked.commsOk]
      rcases hfound.next with hrecovers | hdue
      · exact hrecovers.commsOk hidle (hlinked.rest hidle)
      · have hnow := hdue.now_lt hsteady hlinked
        have hbeat : config.timing.period .heartbeat = config.timing.heartbeatMs.toNat := rfl
        omega

/-- It is as late as the clients have waited. -/
theorem add_le_now (c : Connection Simulator) {time ms : Nat} (h : time ≤ ms) :
    c.now + time ≤ (c.performAll [.sleep ms]).settle.now := by
  rw [now_settle]
  exact Nat.le_trans (Nat.add_le_add_left h _) (Nat.le_of_eq (now_sleep c ms).symm)

/-- With the default configuration, a simulator that falls silent is noticed within 5.2 seconds, and
one that answers again within a minute. -/
theorem tracks_link_of_silence : ∃ s s' : Connection Simulator,
    (Used {} s ∧ Settled s ∧ s.session.state = .idle ∧ s.peer.silent = true ∧
      (s.performAll [.sleep 5200]).settle.running = true ∧
      (s.performAll [.sleep 5200]).settle.board.commsOk = false) ∧
    (Used {} s' ∧ Settled s' ∧ s'.peer = {} ∧
      (s'.performAll [.sleep 60000]).settle.running = true ∧
      (s'.performAll [.sleep 60000]).settle.board.commsOk = true) := by
  obtain ⟨c, hopened⟩ : ∃ c, openTo {} ({} : Simulator) = .ok c := ⟨_, rfl⟩
  obtain ⟨hbetween, hheld⟩ := between_healthy hopened [.sleep 0]
  have hsettled : Settled (c.sleep 0) := settled_sleep (steady_opened hopened) 0
  have hsame : (c.sleep 0).settle = c.sleep 0 := settle_of_still hsettled.begun hsettled.still
  obtain ⟨hlinked, harriving, hhealthy⟩ :=
    hbetween.settled (keeps_healthy {}) hheld.settle.running
  have hidle : (c.sleep 0).session.state = .idle := by
    rw [← hsame]
    exact hhealthy.prompt.idle hlinked harriving
  -- the simulator falls silent
  let s : Connection Simulator :=
    { c.sleep 0 with peer := { (c.sleep 0).peer with silent := true } }
  have hused : Used {} s := (Used.sleep (.opened hopened) 0).simulator _
  have hrest : Settled s := hsettled.simulator _
  have hs : Held {} s := hheld.simulator _
  have hrun := (hs.performAll [.sleep 5200]).settle.running
  have hlost : (s.performAll [.sleep 5200]).settle.board.commsOk = false := by
    refine (Used.tracks_link hused hrest [.sleep 5200] hrun).lost ?_ (.inl rfl) ?_
    · have hstate : s.session.state = .idle := hidle
      rw [hstate]
      rfl
    · rw [Nat.add_assoc]
      exact s.add_le_now (by decide)
  -- and is replaced by one that answers
  let s' : Connection Simulator := { s.sleep 5200 with peer := {} }
  have hused' : Used {} s' := (hused.sleep 5200).simulator _
  have hrest' : Settled s' := (settled_sleep hs.steady 5200).simulator _
  have hs' : Held {} s' := (hs.performAll [.sleep 5200]).simulator _
  have hrun' := (hs'.performAll [.sleep 60000]).settle.running
  have hfound : (s'.performAll [.sleep 60000]).settle.board.commsOk = true := by
    refine (Used.tracks_link hused' hrest' [.sleep 60000] hrun').found rfl rfl ?_
    exact s'.add_le_now (by decide)
  exact ⟨s, s', ⟨hused, hrest, hidle, rfl, hrun, hlost⟩, hused', hrest', rfl, hrun', hfound⟩

end DomeLink.Connection
