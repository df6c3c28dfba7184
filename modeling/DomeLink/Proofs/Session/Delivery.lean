import DomeLink.Proofs.Command.OneShots
import DomeLink.Proofs.Session.Commands
import Mathlib.Data.List.Induction

/-!
# No update is lost

The controller knows of the command what the latest command frame told it (`latestCommand?`). This
file compares that with the command that the clients have made up.

* While nothing is outstanding or waits, the two agree, but for one-shot bits that an
  acknowledgement has cleared since (`Told`).
* A change that is made while nothing is outstanding goes out in the same step. A change that is
  made while a request is outstanding waits: whatever comes next (`Lasts`), the input that ends the
  exchange sends one frame, and that frame holds every change made until then (`Delivers`).

`updates_delivered` says both for every run from the opening.
-/

namespace DomeLink

/-- The command that the latest command frame of the actions carries. -/
def Action.latestCommand? (actions : List Action) : Option Command :=
  (commandFrames actions).getLast?.bind fun frame => (Command.decode frame).toOption

theorem Action.latestCommand?_append_of_nil {as bs : List Action} (h : commandFrames bs = []) :
    latestCommand? (as ++ bs) = latestCommand? as := by
  rw [latestCommand?, commandFrames_append, h, List.append_nil, latestCommand?]

theorem Action.latestCommand?_append_of_encode {as bs : List Action} {c : Command}
    (hc : c.WellFormed) (h : commandFrames bs = [c.encode]) :
    latestCommand? (as ++ bs) = some c.wire := by
  rw [latestCommand?, commandFrames_append, h, List.getLast?_concat, Option.bind_some,
    Command.decode_encode_of_wellFormed hc]
  rfl

theorem Command.clearOneShots_empty (c : Command) : c.clearOneShots ∅ = c := rfl

theorem Command.wire_clearOneShots (c : Command) (bits : OneShot) :
    (c.clearOneShots bits).wire = c.wire.clearOneShots bits := rfl

theorem Command.confirm_eq_self {c : Command} {s : Status} (h : c.isConfirmedBy s = false) :
    c.confirm s = c := by
  unfold isConfirmedBy at h
  exact Decidable.not_not.1 (of_decide_eq_false h)

namespace Session

/-- Everything that a session has done from its opening on. -/
def transcript (timing : Timing) (inputs : List SessionInput) : List Action :=
  (opened timing).2 ++ ((opened timing).1.runActions inputs).flatten

theorem transcript_snoc (timing : Timing) (inputs : List SessionInput) (i : SessionInput) :
    transcript timing (inputs ++ [i]) =
      transcript timing inputs ++ ((reached timing inputs).step i).2 := by
  rw [transcript, runActions_append, List.flatten_append, ← List.append_assoc, transcript]
  simp [runActions, reached]

/-! ## What the controller has been told -/

/-- **What the controller has been told** of the command, and what it has not: `latest` is the
command that the latest command frame carried. -/
structure Told (s : Session) (latest : Option Command) : Prop where
  /-- Nothing waits while nothing is outstanding. -/
  idle : s.state = .idle → s.commandPending = false
  /-- With nothing waiting, only one-shot bits may have been cleared since. -/
  atRest : s.state = .idle ∨ s.state = .awaitStatus → s.commandPending = false →
    ∃ told bits, latest = some told ∧ s.command.wire = told.clearOneShots bits
  /-- A command that is in flight is the command, if none waits. -/
  inFlight : s.state = .awaitCommandAck → s.commandPending = false →
    latest = some s.command.wire

variable {s : Session} {i : SessionInput} {r : Step} {latest : Option Command}

theorem Told.canFail (h : Told s latest) (hs : s.state.canFail = true)
    (hp : s.commandPending = false) :
    ∃ told bits, latest = some told ∧ s.command.wire = told.clearOneShots bits := by
  cases hstate : s.state with
  | awaitStatus => exact h.atRest (.inr hstate) hp
  | awaitCommandAck =>
    exact ⟨s.command.wire, ∅, h.inFlight hstate hp, (Command.clearOneShots_empty _).symm⟩
  | awaitInitialStatus | idle | closed =>
    rw [hstate] at hs
    cases hs

/-- An exchange that ends with nothing waiting leaves nothing untold. -/
theorem Settles.told {t : Session} (ht : s.Settles i t) (h : Told s latest)
    (hp : t.commandPending = false) :
    ∃ told bits, latest = some told ∧ t.command.wire = told.clearOneShots bits := by
  cases ht with
  | seeded => cases hp
  | @refreshed _ status _ hs =>
    obtain ⟨hwait, hconfirm⟩ := Bool.or_eq_false_iff.1 hp
    have hcommand : (s.command.confirm status).wire = s.command.wire := by
      rw [Command.confirm_eq_self hconfirm]
    obtain ⟨told, bits, hlatest, hwire⟩ := h.atRest (.inr hs) hwait
    exact ⟨told, bits, hlatest, hcommand.trans hwire⟩
  | acknowledged hs =>
    exact ⟨s.command.wire, _, h.inFlight hs hp, Command.wire_clearOneShots _ _⟩
  | badStatus hs => exact h.canFail (by rw [hs]; rfl) hp
  | badAck hs => exact h.canFail (by rw [hs]; rfl) hp
  | timeout hs | transmitError hs => exact h.canFail hs hp

theorem told_sendCommand {t : Session} (ht : t.command.WellFormed) {as bs : List Action}
    (hbs : Action.commandFrames bs = [t.command.encode]) :
    Told t.sendCommand.1 (Action.latestCommand? (as ++ bs)) where
  idle := nofun
  atRest := by rintro (h | h) <;> cases h
  inFlight := fun _ _ => Action.latestCommand?_append_of_encode (c := t.command) ht hbs

/-- While a command waits, or none has been sent yet, there is nothing to compare. -/
theorem told_of_silent {t : Session} (hidle : t.state ≠ .idle)
    (h : t.commandPending = false → t.state ≠ .awaitStatus ∧ t.state ≠ .awaitCommandAck) :
    Told t latest where
  idle := fun hs => absurd hs hidle
  atRest := by
    rintro (hs | hs) hp
    · exact absurd hs hidle
    · exact absurd hs (h hp).1
  inFlight := fun hs hp => absurd hs (h hp).2

theorem ne_idle_of_isAwaiting (h : s.state.isAwaiting = true) : s.state ≠ .idle := by
  intro hs
  rw [hs] at h
  cases h

/-- What a step sends is what the controller has been told after it. -/
theorem Transition.told (htr : Transition s i r) (hwf : s.command.WellFormed) {as : List Action}
    (h : Told s (Action.latestCommand? as)) : Told r.1 (Action.latestCommand? (as ++ r.2)) := by
  cases htr with
  | ignore => rwa [List.append_nil]
  | retry => exact told_of_silent nofun fun _ => ⟨nofun, nofun⟩
  | poll hs =>
    have hframes :
        Action.commandFrames (s.arm .statusPoll :: (s.requestStatus .awaitStatus).2) = [] :=
      commandFrames_requestStatus s .awaitStatus
    rw [Action.latestCommand?_append_of_nil hframes]
    exact ⟨nofun, fun _ => h.atRest (.inl hs), nofun⟩
  | pollLater => rwa [Action.latestCommand?_append_of_nil rfl]
  | beat => exact told_sendCommand hwf (commandFrames_sendCommand s)
  | beatLater hs => exact told_of_silent (ne_idle_of_isAwaiting hs) nofun
  | @update _ c hms =>
    exact told_sendCommand (t := { s with command := c })
      (Command.changeAll_wellFormed hms hwf) (commandFrames_sendCommand _)
  | updateLater _ hs => exact told_of_silent (ne_idle_of_isAwaiting hs) nofun
  | updateClosed _ hs =>
    have hne {state : SessionState} (h : .closed ≠ state) : s.state ≠ state := ne_of_eq_of_ne hs h
    exact told_of_silent (hne nofun) fun _ => ⟨hne nofun, hne nofun⟩
  | @finish _ t before ht _ hsends =>
    have hbefore := Action.commandFrames_eq_nil hsends
    cases hp : t.commandPending with
    | true =>
      rw [resolve_of_pending hp]
      refine told_sendCommand (durable_wellFormed.settles ht hwf) ?_
      rw [Action.commandFrames_append, hbefore, commandFrames_sendCommand]
      rfl
    | false =>
      rw [resolve_of_not_pending hp, List.append_nil, Action.latestCommand?_append_of_nil hbefore]
      exact ⟨fun _ => hp, fun _ _ => ht.told h hp, nofun⟩
  | close => exact told_of_silent nofun fun _ => ⟨nofun, nofun⟩

theorem told_reached (timing : Timing) (inputs : List SessionInput) :
    Told (reached timing inputs) (Action.latestCommand? (transcript timing inputs)) := by
  induction inputs using List.reverseRecOn with
  | nil => exact told_of_silent nofun fun _ => ⟨nofun, nofun⟩
  | append_singleton inputs i ih =>
    rw [reached_snoc, transcript_snoc]
    exact ((reached timing inputs).step_transition i).told (command_wellFormed timing inputs) ih

/-! ## Changes that wait -/

/-- None of the inputs ends the exchange that the session is in. -/
def Lasts (s : Session) : List SessionInput → Prop
  | [] => True
  | i :: is => s.endsExchange i = false ∧ (s.step i).1.Lasts is

theorem Transition.closed (htr : Transition s i r) (hs : s.state = .closed) :
    r.1.state = .closed := by
  cases htr with
  | ignore | pollLater | updateClosed => exact hs
  | retry h | poll h | beat h | update _ h =>
    rw [hs] at h
    cases h
  | beatLater h | updateLater _ h =>
    rw [hs] at h
    cases h
  | finish ht =>
    have h := ht.isAwaiting
    rw [hs] at h
    cases h
  | close => rfl

theorem run_closed (hs : s.state = .closed) (inputs : List SessionInput) :
    (s.run inputs).state = .closed := by
  induction inputs generalizing s with
  | nil => exact hs
  | cons i is ih => exact ih ((s.step_transition i).closed hs)

theorem endsExchange_closed (hs : s.state = .closed) (i : SessionInput) :
    s.endsExchange i = false := by
  cases i with
  | timer timer => cases timer <;> simp [Session.endsExchange, hs, SessionState.canFail]
  | _ => simp [Session.endsExchange, hs, SessionState.canFail]

end Session

/-- The command with all updates among the inputs made, but those that are refused. -/
def Command.updatedBy (c : Command) : List SessionInput → Command
  | [] => c
  | .update ms :: is =>
    match c.changeAll ms with
    | .ok c' => c'.updatedBy is
    | .error _ => c.updatedBy is
  | _ :: is => c.updatedBy is

theorem Command.updatedBy_cons_of_ok {c c' : Command} {ms : List Change}
    (h : c.changeAll ms = .ok c') (is : List SessionInput) :
    c.updatedBy (.update ms :: is) = c'.updatedBy is := by
  simp only [updatedBy, h]

theorem Command.updatedBy_cons_of_not_ok {c : Command} {i : SessionInput}
    (h : ∀ ms c', i = .update ms → c.changeAll ms ≠ .ok c') (is : List SessionInput) :
    c.updatedBy (i :: is) = c.updatedBy is := by
  cases i with
  | update ms =>
    cases hms : c.changeAll ms with
    | error e => simp only [updatedBy, hms]
    | ok c' => exact absurd hms (h ms c' rfl)
  | _ => rfl

namespace Session

variable {s : Session} {i : SessionInput} {r : Step} {latest : Option Command}

/-- A step that leaves the exchange open keeps the command waiting, or closes the session. -/
theorem Transition.waits (htr : Transition s i r) (hends : s.endsExchange i = false)
    (ha : s.state.isAwaiting = true) (hp : s.commandPending = true) :
    r.1.state = .closed ∨ (r.1.state.isAwaiting = true ∧ r.1.commandPending = true ∧
      ∀ is, r.1.command.updatedBy is = s.command.updatedBy (i :: is)) := by
  cases htr with
  | ignore _ hms =>
    exact .inr ⟨ha, hp, fun is => (Command.updatedBy_cons_of_not_ok hms is).symm⟩
  | retry => exact .inr ⟨rfl, hp, fun _ => rfl⟩
  | pollLater => exact .inr ⟨ha, hp, fun _ => rfl⟩
  | beatLater => exact .inr ⟨ha, rfl, fun _ => rfl⟩
  | updateLater hms => exact .inr ⟨ha, rfl, fun is => (Command.updatedBy_cons_of_ok hms is).symm⟩
  | poll h | beat h | update _ h => exact absurd h (ne_idle_of_isAwaiting ha)
  | updateClosed _ h =>
    rw [h] at ha
    cases ha
  | finish ht =>
    rw [ht.endsExchange] at hends
    cases hends
  | close => exact .inl rfl

/-- **A command that waits goes on waiting** until its exchange ends, and takes in every change
made meanwhile. -/
theorem Lasts.waits {later : List SessionInput} (h : s.Lasts later)
    (ha : s.state.isAwaiting = true) (hp : s.commandPending = true)
    (hends : (s.run later).endsExchange i = true) :
    (s.run later).commandPending = true ∧
      (s.run later).command = s.command.updatedBy later := by
  induction later generalizing s with
  | nil => exact ⟨hp, rfl⟩
  | cons j js ih =>
    obtain ⟨hj, hjs⟩ := h
    rw [run_cons] at hends ⊢
    rcases (s.step_transition j).waits hj ha hp with hclosed | ⟨ha', hp', hcommand⟩
    · rw [endsExchange_closed (run_closed hclosed js)] at hends
      cases hends
    · rw [← hcommand js]
      exact ih hjs ha' hp' hends

theorem Settles.commandPending {t : Session} (ht : s.Settles i t) (hp : s.commandPending = true) :
    t.commandPending = true := by
  cases ht with
  | seeded => rfl
  | refreshed => exact Bool.or_eq_true_iff.2 (.inl hp)
  | _ => exact hp

/-- A command that waits is sent when the exchange ends, and nothing else is. -/
theorem step_of_pending (hp : s.commandPending = true) (hends : s.endsExchange i = true) :
    ∃ t, s.Settles i t ∧ (s.step i).1 = t.sendCommand.1 ∧
      Action.frames (s.step i).2 = [t.command.encode] := by
  obtain ⟨t, before, ht, hsends, hstep⟩ := exists_settles hends
  rw [hstep, resolve_of_pending (ht.commandPending hp)]
  refine ⟨t, ht, rfl, ?_⟩
  rw [Action.frames_append, Action.frames_eq_nil hsends]
  rfl

/-- **What becomes of a change** that is made to a session and gives it the command `c`. -/
structure Delivers (s : Session) (ms : List Change) (c : Command) : Prop where
  /-- With nothing outstanding, the command goes out in the same step. -/
  atOnce : s.state = .idle → Action.frames (s.step (.update ms)).2 = [c.encode]
  /-- With a request outstanding, the command waits. -/
  deferred : s.state.isAwaiting = true →
    s.step (.update ms) = ({ s with command := c, commandPending := true }, [])
  /-- The input that ends the exchange sends one frame: that of the command with this change and
  all changes made since, as the end of the exchange settles it. -/
  atEnd : s.state.isAwaiting = true → ∀ later i,
    (s.step (.update ms)).1.Lasts later →
    ((s.step (.update ms)).1.run later).endsExchange i = true →
    ((s.step (.update ms)).1.run later).command = c.updatedBy later ∧
      ∃ t, ((s.step (.update ms)).1.run later).Settles i t ∧
        (((s.step (.update ms)).1.run later).step i).1 = t.sendCommand.1 ∧
        Action.frames (((s.step (.update ms)).1.run later).step i).2 = [t.command.encode]

theorem delivers {ms : List Change} {c : Command} (hms : s.command.changeAll ms = .ok c) :
    Delivers s ms c := by
  have hstep (ha : s.state.isAwaiting = true) :
      s.step (.update ms) = ({ s with command := c, commandPending := true }, []) := by
    rw [step_update_of_ok hms]
    unfold issueCommand
    cases hs : s.state with
    | idle => exact absurd hs (ne_idle_of_isAwaiting ha)
    | closed =>
      rw [hs] at ha
      cases ha
    | _ => rfl
  constructor
  case atOnce =>
    intro hs
    rw [step_update_of_ok hms, issueCommand, hs]
    rfl
  case deferred => exact hstep
  case atEnd =>
    intro ha later i hlasts hends
    have hwait := hlasts.waits (by rw [hstep ha]; exact ha) (by rw [hstep ha]) hends
    refine ⟨?_, step_of_pending hwait.1 hends⟩
    rw [hwait.2, hstep ha]

/-- **No update is lost.** After any inputs, the controller has been told all of the command that
does not wait, and every update that is not refused is delivered. -/
theorem updates_delivered (timing : Timing) (inputs : List SessionInput) :
    Told (reached timing inputs) (Action.latestCommand? (transcript timing inputs)) ∧
      ∀ ms c, (reached timing inputs).command.changeAll ms = .ok c →
        Delivers (reached timing inputs) ms c :=
  ⟨told_reached timing inputs, fun _ _ hms => delivers hms⟩

end Session

end DomeLink
