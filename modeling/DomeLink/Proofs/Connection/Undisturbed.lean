import DomeLink.Proofs.Command.AtRest
import DomeLink.Proofs.Connection.Ticks

/-!
# Watching does not disturb

A session whose clients ask for nothing sends commands all the same: one after the initial status,
and one with every heartbeat. All of them are what the initial status filled in (`Session.Unasked`),
so hardware at rest is never moved by them (`Simulator.Unmoved`), whether the simulator answers or
not.

`watching_changes_nothing` says so of the whole way from the status that is reported to the command
that is carried out, and of connections that are left alone for any time.
-/

namespace DomeLink

/-! ## The session -/

namespace Session

variable {seen : Status} {s : Session} {i : SessionInput} {r : Step}

/-- **Nobody has asked the session for anything**: its command is empty until the initial status
arrives, and what that fills in from then on. -/
structure Unasked (seen : Status) (s : Session) : Prop where
  initial : s.state = .awaitInitialStatus → s.command = {}
  command : s.state.isEstablished = true → s.command = ({} : Command).seed seen
  inFlight : s.inFlight = ∅

theorem unasked_sendCommand (h : s.command = ({} : Command).seed seen) :
    s.sendCommand.1.Unasked seen where
  initial := nofun
  command _ := congrArg Command.forgetRequested h
  inFlight := (congrArg Command.oneShots h).trans (Command.oneShots_seed_default seen)

theorem unasked_resolve (h : s.command = ({} : Command).seed seen) (hin : s.inFlight = ∅) :
    s.resolve.1.Unasked seen := by
  unfold resolve
  split
  · exact unasked_sendCommand h
  · exact ⟨nofun, fun _ => h, hin⟩

/-- The end of an exchange takes nothing from such a command. -/
theorem Unasked.settles {t : Session} (h : s.Unasked seen) (ht : s.Settles i t)
    (hseen : s.state = .awaitInitialStatus → ∀ frame status, i = .frame frame →
      Status.decode frame = .ok status → status = seen) :
    t.command = ({} : Command).seed seen ∧ t.inFlight = ∅ := by
  have hfailed (hs : s.state.canFail = true) : s.command = ({} : Command).seed seen := by
    refine h.command ?_
    cases hstate : s.state with
    | awaitStatus | awaitCommandAck => rfl
    | awaitInitialStatus | idle | closed =>
      rw [hstate] at hs
      cases hs
  cases ht with
  | seeded hs hf =>
    refine ⟨?_, h.inFlight⟩
    show s.command.seed _ = _
    rw [h.initial hs, hseen hs _ _ rfl hf]
  | refreshed hs =>
    refine ⟨?_, h.inFlight⟩
    show s.command.confirm _ = _
    rw [h.command (by rw [hs]; rfl), Command.confirm_seed]
  | acknowledged hs =>
    refine ⟨?_, rfl⟩
    show s.command.clearOneShots (s.inFlight.erase _) = _
    rw [h.inFlight, Flags.empty_erase, Command.clearOneShots_empty, h.command (by rw [hs]; rfl)]
  | badStatus hs | badAck hs => exact ⟨hfailed (by rw [hs]; rfl), rfl⟩
  | timeout hs | transmitError hs => exact ⟨hfailed hs, rfl⟩

/-- **Without an update nobody has asked for anything**, if the initial status is the one that was
to be seen. -/
theorem Transition.unasked (htr : Transition s i r) (h : s.Unasked seen)
    (hi : ∀ changes, i ≠ .update changes) (hclose : i ≠ .close)
    (hseen : s.state = .awaitInitialStatus → ∀ frame status, i = .frame frame →
      Status.decode frame = .ok status → status = seen) : r.1.Unasked seen := by
  cases htr with
  | ignore | pollLater => exact h
  | beatLater => exact ⟨h.initial, h.command, h.inFlight⟩
  | retry hs => exact ⟨fun _ => h.initial hs, nofun, h.inFlight⟩
  | poll hs => exact ⟨nofun, fun _ => h.command (by rw [hs]; rfl), h.inFlight⟩
  | beat hs => exact unasked_sendCommand (h.command (by rw [hs]; rfl))
  | update | updateLater | updateClosed => exact absurd rfl (hi _)
  | finish ht =>
    obtain ⟨hcommand, hinFlight⟩ := h.settles ht hseen
    exact unasked_resolve hcommand hinFlight
  | close => exact absurd rfl hclose

/-- Nothing leads back to the time before the initial status. -/
theorem Transition.awaitInitialStatus (htr : Transition s i r)
    (hr : r.1.state = .awaitInitialStatus) : s.state = .awaitInitialStatus := by
  cases htr with
  | ignore | pollLater | beatLater | updateLater | updateClosed => exact hr
  | retry hs => exact hs
  | poll | beat | update | close => cases hr
  | finish =>
    rw [state_resolve_eq] at hr
    split at hr <;> cases hr

end Session

/-! ## The simulator -/

namespace Simulator

/-- **The hardware is as it was**: every command since asked for what it did already. -/
structure Unmoved (before p : Simulator) : Prop where
  status : p.status = before.status
  commands : ∃ n, p.commands =
    before.commands ++ List.replicate n (({} : Command).seed before.status).wire

theorem Unmoved.receive {before p : Simulator} (h : Unmoved before p)
    (hrange : before.status.InRange) (hrest : before.status.AtRest) {timing : Timing}
    {r : Session.Step} {actions : List Action} {frame : Bytes}
    (hasks : Session.Asks timing r actions frame) (hr : r.1.Unasked before.status) :
    Unmoved before (p.receive frame).1 := by
  have hstatus (hs : r.1.state = .awaitInitialStatus ∨ r.1.state = .awaitStatus) :
      Unmoved before (p.receive frame).1 := by
    rw [hasks.status hs, receive_statusRequest]
    exact ⟨h.status, h.commands⟩
  cases hs : r.1.state with
  | awaitInitialStatus => exact hstatus (.inl hs)
  | awaitStatus => exact hstatus (.inr hs)
  | awaitCommandAck =>
    have hcommand : r.1.command = ({} : Command).seed before.status :=
      hr.command (by rw [hs]; rfl)
    rw [hasks.command hs, receive_encode, hcommand]
    obtain ⟨n, hn⟩ := h.commands
    constructor
    · dsimp only
      rw [h.status, Command.apply_carried_seed hrange hrest]
    · refine ⟨n + 1, ?_⟩
      dsimp only
      rw [hn, Command.carried_seed hrange, List.append_assoc, ← List.replicate_succ']
  | idle | closed =>
    have hawaiting := hasks.awaiting
    rw [hs] at hawaiting
    cases hawaiting

/-- A status that is read from what the simulator sends is its own. -/
theorem eq_carried_of_decode {p : Simulator} {frame : Bytes} {status : Status}
    (hmem : frame ∈ ((p.switched p.status.encode).map List.dropLast).toList)
    (hok : Status.decode frame = .ok status) : status = p.status.carried := by
  unfold switched at hmem
  cases hsilent : p.silent with
  | true =>
    rw [hsilent] at hmem
    cases hmem
  | false =>
    rw [hsilent] at hmem
    cases hcorrupt : p.corrupt with
    | true =>
      rw [hcorrupt] at hmem
      cases List.mem_singleton.1 hmem
      obtain ⟨-, -, -, hrefused⟩ := isTransmission_spoil p.status.isReply_encode
      exact absurd hok (Session.not_decode_of_refused hrefused status)
    | false =>
      rw [hcorrupt] at hmem
      cases List.mem_singleton.1 hmem
      exact (Except.ok.inj ((Status.decode_dropLast_encode _).symm.trans hok)).symm

end Simulator

/-! ## The connection -/

namespace Connection

variable {config : Config} {before : Simulator} {c d e : Connection Simulator} {i : SessionInput}

/-- **The hardware is undisturbed**: nobody has asked for anything, and the initial status is still
to be seen as it was, or has been. -/
structure Undisturbed (before : Simulator) (c : Connection Simulator) : Prop where
  unasked : c.session.Unasked before.status
  unmoved : before.Unmoved c.peer
  arriving : c.session.state = .awaitInitialStatus → ∀ frame ∈ c.arriving, ∀ status,
    Status.decode frame = .ok status → status = before.status

/-- What happens to the session without an update leaves the hardware undisturbed. -/
theorem Undisturbed.feed (h : Undisturbed before c) (hlinked : Linked config c)
    (ht : Taken c i e) (hi : ∀ changes, i ≠ .update changes) (hrange : before.status.InRange)
    (hdigits : before.status.OneDigit) (hrest : before.status.AtRest) :
    Undisturbed before (e.feed i) := by
  have hfed := hlinked.fed ht
  have hdue := hlinked.due ht
  have htr := c.session.step_transition i
  have hsends := (hfed.course hlinked hdue).sends
  have hunasked : (c.session.step i).1.Unasked before.status := by
    refine htr.unasked h.unasked hi hdue.ne_close ?_
    rintro hs frame status rfl hok
    cases hdue with
    | frame harriving =>
      exact h.arriving hs frame (by rw [harriving]; exact List.mem_singleton_self frame) status hok
  constructor
  case unasked =>
    rw [hfed.session]
    exact hunasked
  case unmoved =>
    rw [hfed.peer]
    rcases hsends with hquiet | ⟨⟨actions, frame, hasks⟩, -⟩
    · rw [Action.frames_eq_nil hquiet]
      exact h.unmoved
    · rw [hasks.frames]
      exact h.unmoved.receive hrange hrest hasks hunasked
  case arriving =>
    intro hs frame hmem status hok
    rw [hfed.session] at hs
    rcases hsends with hquiet | ⟨hrequests, -⟩
    · -- nothing is sent, so nothing new arrives
      have hbefore := htr.awaitInitialStatus hs
      by_cases hframe : ∃ handled, i = .frame handled
      · obtain ⟨handled, hhandled⟩ := hframe
        rw [hfed.used hquiet handled hhandled] at hmem
        cases hmem
      · rw [hfed.kept hquiet fun handled heq => hframe ⟨handled, heq⟩] at hmem
        exact h.arriving hbefore frame hmem status hok
    · rw [hlinked.arriving_of_statusRequest ht hrequests (.inl hs)] at hmem
      rw [Simulator.eq_carried_of_decode hmem hok, h.unmoved.status,
        Status.carried_eq_self hrange hdigits]

theorem Undisturbed.occurs (h : Undisturbed before c) (hlinked : Linked config c)
    (hd : Occurs c d) (hrange : before.status.InRange) (hdigits : before.status.OneDigit)
    (hrest : before.status.AtRest) : Undisturbed before d := by
  cases hd with
  | quiet hquiet =>
    constructor
    · rw [hquiet.session]
      exact h.unasked
    · rw [hquiet.peer]
      exact h.unmoved
    · rw [hquiet.session, hquiet.arriving]
      exact h.arriving
  | frame ht => exact h.feed hlinked ht nofun hrange hdigits hrest
  | timer ht => exact h.feed hlinked ht nofun hrange hdigits hrest

theorem Fresh.undisturbed (h : Fresh config c) (hunmoved : before.Unmoved c.peer)
    (hrange : before.status.InRange) (hdigits : before.status.OneDigit) :
    Undisturbed before c.start := by
  have hbegun := h.start
  constructor
  · rw [hbegun.session]
    exact ⟨fun _ => rfl, nofun, rfl⟩
  · rw [hbegun.peer, Simulator.receive_statusRequest]
    exact ⟨hunmoved.status, hunmoved.commands⟩
  · intro _ frame hmem status hok
    rw [h.arriving_start] at hmem
    rw [Simulator.eq_carried_of_decode hmem hok, hunmoved.status,
      Status.carried_eq_self hrange hdigits]

theorem sustains_undisturbed (config : Config) (hrange : before.status.InRange)
    (hdigits : before.status.OneDigit) (hrest : before.status.AtRest) :
    Sustains config (fun c => before.Unmoved c.peer) (Undisturbed before) where
  begins := fun _ hfresh hc => hfresh.undisturbed hc hrange hdigits
  occurs := fun _ _ hlinked hd hc => hc.occurs hlinked hd hrange hdigits hrest

/-- **A connection that is left alone**: its clients ask for nothing. Time passes, and the simulator
may fall silent, become corrupt or answer in other chunks. -/
inductive LeftAlone (config : Config) (before : Simulator) : Connection Simulator → Prop
  | opened {c : Connection Simulator} (h : openTo config before = .ok c) : LeftAlone config before c
  | switches {c : Connection Simulator} (h : LeftAlone config before c) (silent corrupt : Bool)
      (chunk : Nat) :
      LeftAlone config before { c with peer := { c.peer with silent, corrupt, chunk } }
  | sleep {c : Connection Simulator} (h : LeftAlone config before c) (ms : Nat) :
      LeftAlone config before (c.sleep ms)

theorem LeftAlone.held (h : LeftAlone config before c) : Held config c := by
  induction h with
  | opened h => exact held_opened h
  | switches _ silent corrupt chunk ih => exact ih.simulator _
  | sleep _ ms ih => exact ih.of_moves (moves_sleep ih.steady ms).1 (ih.steady.sleep ms)

theorem LeftAlone.between (h : LeftAlone config before c) (hrange : before.status.InRange)
    (hdigits : before.status.OneDigit) (hrest : before.status.AtRest) :
    Between config (fun c => before.Unmoved c.peer) (Undisturbed before) c := by
  induction h with
  | opened h =>
    refine ⟨steady_opened h, fun _ => .inl ⟨fresh_opened h, ?_⟩⟩
    cases (check_bind_eq_ok.1 h).2
    exact ⟨rfl, 0, (List.append_nil _).symm⟩
  | @switches c _ silent corrupt chunk ih =>
    refine ih.outside { c.peer with silent, corrupt, chunk } c.handles c.board rfl (fun hc => ?_)
      fun hc => ?_
    · exact ⟨hc.status, hc.commands⟩
    · exact ⟨hc.unasked, ⟨hc.unmoved.status, hc.unmoved.commands⟩, hc.arriving⟩
  | sleep _ ms ih => exact (sustains_undisturbed config hrange hdigits hrest).sleep ih ms

theorem LeftAlone.unmoved (h : LeftAlone config before c) (hrange : before.status.InRange)
    (hdigits : before.status.OneDigit) (hrest : before.status.AtRest) : before.Unmoved c.peer := by
  rcases (h.between hrange hdigits hrest).running h.held.running with ⟨-, hc⟩ | ⟨-, -, hc⟩
  · exact hc
  · exact hc.unmoved

/-- **Watching changes nothing.** Hardware at rest whose values fit the digits of the reply is asked
for what it does already: its status, encoded and decoded, fills in a command that, encoded and
decoded, leaves it as it is in every field. So a connection that is left alone leaves it as it is,
however many commands it sends; all of them are that same one. -/
theorem watching_changes_nothing {s : Status} (hrange : s.InRange) (hdigits : s.OneDigit)
    (hrest : s.AtRest) :
    ∃ seen told, Status.decode s.encode = .ok seen ∧
      Command.decode (({} : Command).seed seen).encode = .ok told ∧ told.apply s = s ∧
      ∀ config before c, before.status = s → LeftAlone config before c →
        c.peer.status = s ∧ ∃ n, c.peer.commands = before.commands ++ List.replicate n told := by
  have hseen : Status.decode s.encode = .ok s := by
    rw [Status.decode_encode, Status.carried_eq_self hrange hdigits]
  have htold : Command.decode (({} : Command).seed s).encode = .ok (({} : Command).seed s).wire := by
    rw [Command.decode_encode, Command.carried_seed hrange]
  refine ⟨s, (({} : Command).seed s).wire, hseen, htold, Command.apply_seed hrest, ?_⟩
  rintro config before c rfl hleft
  have hunmoved := hleft.unmoved hrange hdigits hrest
  exact ⟨hunmoved.status, hunmoved.commands⟩

/-- An observatory that is watched for an hour, while the simulator falls silent halfway. -/
theorem watching_changes_nothing_for_an_hour : ∃ s : Status, (s.InRange ∧ s.OneDigit ∧ s.AtRest) ∧
    ∃ c, openTo {} ({ status := s } : Simulator) = .ok c ∧
      let half := c.sleep 1800000
      let silenced := { half with peer := { half.peer with silent := true } }
      (silenced.sleep 1800000).peer.status = s := by
  let s : Status :=
    { domeAzimuth := 1800, shutter := ShutterStatus.opened, aperture := WheelStatus.centered
      acqMirror := AcqMirrorStatus.view, instrumentShutter := InstrumentShutterStatus.opened
      focusPosition := -250, focus := FocusStatus.initialised, eht := .standby, handset := 0x11
      apertureSlot := 3, domeFlopMax := 900, haPulses := 99999999 }
  have hrange : s.InRange := by constructor <;> decide
  have hdigits : s.OneDigit := by constructor <;> decide
  have hrest : s.AtRest := ⟨rfl, by decide, .inl rfl⟩
  have haccepted : Config.check {} = .ok () := by decide
  obtain ⟨c, hopened⟩ := exists_opened haccepted ({ status := s } : Simulator)
  obtain ⟨seen, told, -, -, -, halone⟩ := watching_changes_nothing hrange hdigits hrest
  have hhalf : LeftAlone {} { status := s } (c.sleep 1800000) := (LeftAlone.opened hopened).sleep _
  have hsilenced := (hhalf.switches true (c.sleep 1800000).peer.corrupt
    (c.sleep 1800000).peer.chunk).sleep 1800000
  exact ⟨s, ⟨hrange, hdigits, hrest⟩, c, hopened, (halone _ _ _ rfl hsilenced).1⟩

end Connection

end DomeLink
