import DomeLink.Proofs.Command.OneShots
import DomeLink.Proofs.Session.Commands
import Mathlib.Data.List.Induction

/-!
# One-shot bits are neither lost nor repeated

A one-shot bit is asked for by an update, goes out with every command frame that follows, and is
cleared by the acknowledgement of such a frame. A session keeps this with three words: the bits of
the command, `requested` and `inFlight`. Here they are compared with the whole run, whose inputs are
counted from zero.

* `Acknowledges timing inputs j k`: the input `k` is the acknowledgement of the command frame that
  the input `j` sent.
* `Unacknowledged timing inputs bit`: some update asked for the bit, and no command frame sent since
  has been acknowledged.
* `one_shots_account`: at every point of every run the bits that are set are those that are
  unacknowledged; every command frame carries exactly these.
-/

namespace DomeLink.Session

/-! ## The run, input by input -/

/-- The input of index `k` stands in the relation to the session that it finds. -/
def At (timing : Timing) (inputs : List SessionInput) (P : Session → SessionInput → Prop)
    (k : Nat) : Prop :=
  ∃ i, inputs[k]? = some i ∧ P (reached timing (inputs.take k)) i

/-- An update asks for the bit, and is not refused. -/
def AsksFor (bit : OneShot) (s : Session) (i : SessionInput) : Prop :=
  ∃ ms c, i = .update ms ∧ s.command.changeAll ms = .ok c ∧ Change.anyAsks ms bit = true

/-- A command frame goes out. -/
def SendsCommand (s : Session) (i : SessionInput) : Prop := Action.commandFrames (s.step i).2 ≠ []

/-- A valid acknowledgement comes in while one is awaited. -/
def TakesAck (s : Session) (i : SessionInput) : Prop :=
  s.state = .awaitCommandAck ∧
    ∃ frame, i = .frame frame ∧ Frame.checkReply .commandAck frame = .ok ()

/-- The input `k` acknowledges the command frame that the input `j` sent: that frame is the latest
one, and so the one in flight. -/
structure Acknowledges (timing : Timing) (inputs : List SessionInput) (j k : Nat) : Prop where
  sent : At timing inputs SendsCommand j
  taken : At timing inputs TakesAck k
  before : j < k
  latest : ∀ l, j < l → l < k → ¬ At timing inputs SendsCommand l

/-- **The bit is unacknowledged**: an update asked for it, and no command frame sent with that
update or after it has been acknowledged. -/
def Unacknowledged (timing : Timing) (inputs : List SessionInput) (bit : OneShot) : Prop :=
  ∃ j, At timing inputs (AsksFor bit) j ∧ ∀ m k, j ≤ m → ¬ Acknowledges timing inputs m k

/-- The bit is unsent: an update asked for it, and no command frame has been sent since. -/
def Unsent (timing : Timing) (inputs : List SessionInput) (bit : OneShot) : Prop :=
  ∃ j, At timing inputs (AsksFor bit) j ∧ ∀ m, j ≤ m → ¬ At timing inputs SendsCommand m

/-- The input `m` sent the latest command frame. -/
def LatestSend (timing : Timing) (inputs : List SessionInput) (m : Nat) : Prop :=
  At timing inputs SendsCommand m ∧ ∀ l, m < l → ¬ At timing inputs SendsCommand l

/-! ## One more input -/

section Snoc

variable {timing : Timing} {inputs : List SessionInput} {i : SessionInput} {bit : OneShot}
  {P : Session → SessionInput → Prop}

theorem At.lt {k : Nat} (h : At timing inputs P k) : k < inputs.length := by
  obtain ⟨j, hj, _⟩ := h
  exact (List.getElem?_eq_some_iff.1 hj).1

theorem at_snoc {k : Nat} :
    At timing (inputs ++ [i]) P k ↔
      At timing inputs P k ∨ (k = inputs.length ∧ P (reached timing inputs) i) := by
  unfold At
  rcases Nat.lt_trichotomy k inputs.length with hk | rfl | hk
  · rw [List.getElem?_append_left hk, List.take_append_of_le_length (Nat.le_of_lt hk)]
    constructor
    · exact .inl
    · rintro (h | ⟨rfl, _⟩)
      · exact h
      · exact absurd hk (Nat.lt_irrefl _)
  · rw [List.getElem?_concat_length, List.take_left, List.getElem?_eq_none (Nat.le_refl _)]
    constructor
    · rintro ⟨j, hj, h⟩
      cases hj
      exact .inr ⟨rfl, h⟩
    · rintro (⟨_, hj, _⟩ | ⟨_, h⟩)
      · cases hj
      · exact ⟨i, rfl, h⟩
  · rw [List.getElem?_eq_none (by simp; omega), List.getElem?_eq_none (by omega)]
    constructor
    · rintro ⟨_, hj, _⟩
      cases hj
    · rintro (⟨_, hj, _⟩ | ⟨rfl, _⟩)
      · cases hj
      · exact absurd hk (Nat.lt_irrefl _)

theorem unsent_snoc :
    Unsent timing (inputs ++ [i]) bit ↔
      ¬ SendsCommand (reached timing inputs) i ∧
        (Unsent timing inputs bit ∨ AsksFor bit (reached timing inputs) i) := by
  constructor
  · rintro ⟨j, hj, hsends⟩
    have hle : j ≤ inputs.length := by
      have := hj.lt
      rw [List.length_append] at this
      exact Nat.le_of_lt_succ this
    refine ⟨fun h => hsends _ hle (at_snoc.2 (.inr ⟨rfl, h⟩)), ?_⟩
    rcases at_snoc.1 hj with hj | ⟨_, hasks⟩
    · exact .inl ⟨j, hj, fun m hm h => hsends m hm (at_snoc.2 (.inl h))⟩
    · exact .inr hasks
  · rintro ⟨hnot, ⟨j, hj, hsends⟩ | hasks⟩
    · refine ⟨j, at_snoc.2 (.inl hj), fun m hm h => ?_⟩
      rcases at_snoc.1 h with h | ⟨_, h⟩
      · exact hsends m hm h
      · exact hnot h
    · refine ⟨inputs.length, at_snoc.2 (.inr ⟨rfl, hasks⟩), fun m hm h => ?_⟩
      rcases at_snoc.1 h with h | ⟨_, h⟩
      · exact absurd h.lt (Nat.not_lt.2 hm)
      · exact hnot h

theorem latestSend_snoc {m : Nat} (h : LatestSend timing inputs m)
    (hnot : ¬ SendsCommand (reached timing inputs) i) :
    LatestSend timing (inputs ++ [i]) m := by
  refine ⟨at_snoc.2 (.inl h.1), fun l hl hs => ?_⟩
  rcases at_snoc.1 hs with hs | ⟨_, hs⟩
  · exact h.2 l hl hs
  · exact hnot hs

theorem latestSend_length (h : SendsCommand (reached timing inputs) i) :
    LatestSend timing (inputs ++ [i]) inputs.length := by
  refine ⟨at_snoc.2 (.inr ⟨rfl, h⟩), fun l hl hs => ?_⟩
  have := hs.lt
  rw [List.length_append] at this
  exact absurd this (Nat.not_lt.2 hl)

theorem acknowledges_snoc {m k : Nat} :
    Acknowledges timing (inputs ++ [i]) m k ↔
      Acknowledges timing inputs m k ∨
        (k = inputs.length ∧ TakesAck (reached timing inputs) i ∧ LatestSend timing inputs m) := by
  constructor
  · intro h
    have hsent : m < inputs.length → At timing inputs SendsCommand m := by
      intro hm
      rcases at_snoc.1 h.sent with hs | ⟨rfl, _⟩
      · exact hs
      · exact absurd hm (Nat.lt_irrefl _)
    rcases at_snoc.1 h.taken with hk | ⟨rfl, hack⟩
    · have hm := Nat.lt_trans h.before hk.lt
      exact .inl ⟨hsent hm, hk, h.before, fun l h₁ h₂ hl => h.latest l h₁ h₂ (at_snoc.2 (.inl hl))⟩
    · refine .inr ⟨rfl, hack, hsent h.before, fun l hl hs => ?_⟩
      exact h.latest l hl hs.lt (at_snoc.2 (.inl hs))
  · rintro (h | ⟨rfl, hack, hsent, hlatest⟩)
    · refine ⟨at_snoc.2 (.inl h.sent), at_snoc.2 (.inl h.taken), h.before, fun l h₁ h₂ hl => ?_⟩
      rcases at_snoc.1 hl with hl | ⟨rfl, _⟩
      · exact h.latest l h₁ h₂ hl
      · exact absurd h₂ (Nat.not_lt.2 (Nat.le_of_lt h.taken.lt))
    · refine ⟨at_snoc.2 (.inl hsent), at_snoc.2 (.inr ⟨rfl, hack⟩), hsent.lt, fun l h₁ h₂ hl => ?_⟩
      rcases at_snoc.1 hl with hl | ⟨rfl, _⟩
      · exact hlatest l h₁ hl
      · exact absurd h₂ (Nat.lt_irrefl _)

theorem AsksFor.not_takesAck {s : Session} (h : AsksFor bit s i) : ¬ TakesAck s i := by
  rintro ⟨_, frame, hi, _⟩
  obtain ⟨ms, c, hi', _⟩ := h
  rw [hi] at hi'
  cases hi'

/-- An input that acknowledges nothing adds what it asks for to what is unacknowledged. -/
theorem unacknowledged_snoc_of_not_ack (hack : ¬ TakesAck (reached timing inputs) i) :
    Unacknowledged timing (inputs ++ [i]) bit ↔
      Unacknowledged timing inputs bit ∨ AsksFor bit (reached timing inputs) i := by
  have hsame {m k : Nat} :
      Acknowledges timing (inputs ++ [i]) m k ↔ Acknowledges timing inputs m k := by
    rw [acknowledges_snoc]
    exact or_iff_left fun h => hack h.2.1
  constructor
  · rintro ⟨j, hj, hnone⟩
    rcases at_snoc.1 hj with hj | ⟨_, hasks⟩
    · exact .inl ⟨j, hj, fun m k hm h => hnone m k hm (hsame.2 h)⟩
    · exact .inr hasks
  · rintro (⟨j, hj, hnone⟩ | hasks)
    · exact ⟨j, at_snoc.2 (.inl hj), fun m k hm h => hnone m k hm (hsame.1 h)⟩
    · refine ⟨inputs.length, at_snoc.2 (.inr ⟨rfl, hasks⟩), fun m k hm h => ?_⟩
      exact absurd (hsame.1 h).sent.lt (Nat.not_lt.2 hm)

/-- An acknowledgement leaves unacknowledged what has not been sent. -/
theorem unacknowledged_snoc_of_ack (hack : TakesAck (reached timing inputs) i)
    (hsent : ∃ m, LatestSend timing inputs m) :
    Unacknowledged timing (inputs ++ [i]) bit ↔ Unsent timing inputs bit := by
  obtain ⟨m, hm⟩ := hsent
  constructor
  · rintro ⟨j, hj, hnone⟩
    rcases at_snoc.1 hj with hj | ⟨_, hasks⟩
    · refine ⟨j, hj, fun l hl hs => ?_⟩
      -- a frame sent since would make the latest one a frame sent since, which is acknowledged
      have hlm : l ≤ m := Nat.not_lt.1 fun h => hm.2 l h hs
      exact hnone m _ (Nat.le_trans hl hlm) (acknowledges_snoc.2 (.inr ⟨rfl, hack, hm⟩))
    · exact absurd hack hasks.not_takesAck
  · rintro ⟨j, hj, hnone⟩
    refine ⟨j, at_snoc.2 (.inl hj), fun l k hl h => ?_⟩
    rcases acknowledges_snoc.1 h with h | ⟨_, _, h⟩
    · exact hnone l hl h.sent
    · exact hnone l hl h.1

end Snoc

/-! ## What a step does to one bit -/

variable {s : Session} {i : SessionInput} {r : Step} {bit : OneShot}

theorem asksFor_update {ms : List Change} {c : Command} (hms : s.command.changeAll ms = .ok c) :
    AsksFor bit s (.update ms) ↔ Change.anyAsks ms bit = true := by
  constructor
  · rintro ⟨ms', _, hi, _, h⟩
    cases hi
    exact h
  · intro h
    exact ⟨ms, c, rfl, hms, h⟩

theorem oneShots_of_changeAll {ms : List Change} {c : Command}
    (hms : s.command.changeAll ms = .ok c) (hbit : bit ∈ OneShot.all) :
    c.oneShots.has bit = true ↔
      s.command.oneShots.has bit = true ∨ AsksFor bit s (.update ms) := by
  rw [Command.has_oneShots_changeAll hms bit hbit, Bool.or_eq_true, asksFor_update hms]

theorem requested_of_changeAll {ms : List Change} {c : Command}
    (hms : s.command.changeAll ms = .ok c) (hbit : bit ∈ OneShot.all) :
    c.requested.has bit = true ↔
      s.command.requested.has bit = true ∨ AsksFor bit s (.update ms) := by
  rw [Command.has_requested_changeAll hms bit hbit, Bool.or_eq_true, asksFor_update hms]

theorem not_asksFor (h : ∀ ms c, i = .update ms → s.command.changeAll ms ≠ .ok c) :
    ¬ AsksFor bit s i := by
  rintro ⟨ms, c, hi, hms, _⟩
  exact h ms c hi hms

theorem TakesAck.settles (h : TakesAck s i) : s.Settles i s.acknowledged := by
  obtain ⟨hs, frame, rfl, hf⟩ := h
  exact .acknowledged hs hf

theorem Settles.not_asksFor {t : Session} (ht : s.Settles i t) : ¬ AsksFor bit s i := by
  rintro ⟨ms, _, rfl, _⟩
  cases ht

theorem Settles.requested {t : Session} (ht : s.Settles i t) :
    t.command.requested = s.command.requested := by
  cases ht <;> rfl

/-- Only an acknowledgement clears one-shot bits. -/
theorem Settles.oneShots {t : Session} (ht : s.Settles i t) (hack : ¬ TakesAck s i) :
    t.command.oneShots = s.command.oneShots := by
  cases ht with
  | seeded => exact Command.oneShots_seed _ _
  | refreshed => exact Command.oneShots_confirm _ _
  | acknowledged hs hf => exact absurd ⟨hs, _, rfl, hf⟩ hack
  | badStatus | badAck | timeout | transmitError => rfl

theorem Settles.eq_acknowledged {t : Session} (ht : s.Settles i t) (hack : TakesAck s i) :
    t = s.acknowledged := by
  obtain ⟨hs, frame, rfl, hf⟩ := hack
  cases ht with
  | seeded h | refreshed h | badStatus h =>
    rw [hs] at h
    cases h
  | acknowledged => rfl
  | badAck _ h =>
    rw [hf] at h
    cases h

theorem oneShots_resolve (s : Session) : s.resolve.1.command.oneShots = s.command.oneShots := by
  unfold resolve
  split <;> rfl

theorem Transition.oneShots_of_asks (htr : Transition s i r) (hbit : bit ∈ OneShot.all)
    (hack : ¬ TakesAck s i) :
    r.1.command.oneShots.has bit = true ↔
      s.command.oneShots.has bit = true ∨ AsksFor bit s i := by
  cases htr with
  | ignore _ hms => exact (or_iff_left (Session.not_asksFor hms)).symm
  | retry | poll | pollLater | beat | beatLater | close =>
    exact (or_iff_left (Session.not_asksFor (by rintro _ _ ⟨⟩))).symm
  | @update _ c hms => exact oneShots_of_changeAll (c := c) hms hbit
  | updateLater hms | updateClosed hms => exact oneShots_of_changeAll hms hbit
  | finish ht =>
    rw [oneShots_resolve, ht.oneShots hack]
    exact (or_iff_left ht.not_asksFor).symm

theorem Transition.oneShots_of_ack (htr : Transition s i r) (hbit : bit ∈ OneShot.all)
    (hack : TakesAck s i) :
    r.1.command.oneShots.has bit = true ↔
      s.command.oneShots.has bit = true ∧
        (s.inFlight.has bit = true → s.command.requested.has bit = true) := by
  have hends := hack.settles.endsExchange
  cases htr with
  | ignore h =>
    rw [h] at hends
    cases hends
  | finish ht =>
    rw [oneShots_resolve, ht.eq_acknowledged hack]
    show (s.command.clearOneShots _).oneShots.has bit = true ↔ _
    rw [Command.has_oneShots_clearOneShots _ _ bit hbit,
      (OneShot.isSingle_of_mem hbit).has_erase, Bool.and_eq_true, Bool.not_eq_true',
      Bool.and_eq_false_imp]
    simp
  | _ =>
    obtain ⟨_, _, hi, _⟩ := hack
    cases hi

theorem commandFrames_ne_nil (before : List Action) (t : Session) :
    Action.commandFrames (before ++ t.sendCommand.2) ≠ [] := by
  rw [Action.commandFrames_append, commandFrames_sendCommand]
  exact List.append_ne_nil_of_right_ne_nil _ (List.cons_ne_nil _ _)

/-- A step that sends a command has it in flight, with nothing requested since. -/
theorem Transition.sent (htr : Transition s i r) (h : Action.commandFrames r.2 ≠ []) :
    r.1.state = .awaitCommandAck ∧ r.1.command.requested = ∅ ∧
      r.1.inFlight = r.1.command.oneShots := by
  cases htr with
  | ignore | pollLater | beatLater | updateLater | updateClosed | close => exact absurd rfl h
  | retry => exact absurd (commandFrames_requestStatus s .awaitInitialStatus) h
  | poll => exact absurd (commandFrames_requestStatus s .awaitStatus) h
  | beat | update => exact ⟨rfl, rfl, rfl⟩
  | @finish _ t before _ _ hsends =>
    cases hp : t.commandPending with
    | true =>
      rw [resolve_of_pending hp]
      exact ⟨rfl, rfl, rfl⟩
    | false =>
      rw [resolve_of_not_pending hp, List.append_nil] at h
      exact absurd (Action.commandFrames_eq_nil hsends) h

/-- A step that sends no command adds what it asks for to what is requested. -/
theorem Transition.requested (htr : Transition s i r) (hbit : bit ∈ OneShot.all)
    (h : Action.commandFrames r.2 = []) :
    r.1.command.requested.has bit = true ↔
      s.command.requested.has bit = true ∨ AsksFor bit s i := by
  cases htr with
  | ignore _ hms => exact (or_iff_left (Session.not_asksFor hms)).symm
  | retry | poll | pollLater | beatLater | close =>
    exact (or_iff_left (Session.not_asksFor (by rintro _ _ ⟨⟩))).symm
  | beat => exact absurd h (commandFrames_ne_nil [_] s)
  | update => exact absurd h (commandFrames_ne_nil [] _)
  | updateLater hms | updateClosed hms => exact requested_of_changeAll hms hbit
  | @finish _ t before ht =>
    cases hp : t.commandPending with
    | true =>
      rw [resolve_of_pending hp] at h
      exact absurd h (commandFrames_ne_nil before t)
    | false =>
      rw [resolve_of_not_pending hp, ht.requested]
      exact (or_iff_left ht.not_asksFor).symm

/-- A step that sends no command, and has one in flight, has found it in flight. -/
theorem Transition.inFlight (htr : Transition s i r) (h : Action.commandFrames r.2 = [])
    (hr : r.1.state = .awaitCommandAck) :
    s.state = .awaitCommandAck ∧ r.1.inFlight = s.inFlight ∧ ¬ TakesAck s i := by
  have hnot (hends : s.endsExchange i = false) : ¬ TakesAck s i := by
    intro hack
    rw [hack.settles.endsExchange] at hends
    cases hends
  cases htr with
  | ignore hends => exact ⟨hr, rfl, hnot hends⟩
  | pollLater | beatLater | updateLater => exact ⟨hr, rfl, hnot rfl⟩
  | retry | poll | close => cases hr
  | beat => exact absurd h (commandFrames_ne_nil [_] s)
  | update => exact absurd h (commandFrames_ne_nil [] _)
  | updateClosed _ hs =>
    rw [hs] at hr
    cases hr
  | @finish _ t before ht =>
    cases hp : t.commandPending with
    | true =>
      rw [resolve_of_pending hp] at h
      exact absurd h (commandFrames_ne_nil before t)
    | false =>
      rw [resolve_of_not_pending hp] at hr
      cases hr

/-! ## The account of a run -/

variable {timing : Timing} {inputs : List SessionInput}

theorem Unsent.unacknowledged (h : Unsent timing inputs bit) :
    Unacknowledged timing inputs bit := by
  obtain ⟨j, hj, hnone⟩ := h
  exact ⟨j, hj, fun m _ hm hack => hnone m hm hack.sent⟩

/-- **The account of one bit**: what the three words of a session say of the run. -/
structure Account (timing : Timing) (inputs : List SessionInput) (bit : OneShot) : Prop where
  set : (reached timing inputs).command.oneShots.has bit = true ↔
    Unacknowledged timing inputs bit
  requested : (reached timing inputs).command.requested.has bit = true ↔
    Unsent timing inputs bit
  inFlight : (reached timing inputs).state = .awaitCommandAck →
    (reached timing inputs).command.oneShots.has bit = true →
    (reached timing inputs).inFlight.has bit = true ∨
      (reached timing inputs).command.requested.has bit = true
  latest : (reached timing inputs).state = .awaitCommandAck →
    ∃ m, LatestSend timing inputs m

theorem account_nil (timing : Timing) (hbit : bit ∈ OneShot.all) : Account timing [] bit := by
  have hempty : ¬ (∅ : OneShot).has bit = true := by
    rw [(OneShot.isSingle_of_mem hbit).empty_has]
    exact Bool.false_ne_true
  have hset : (reached timing []).command.oneShots = ∅ := by
    show ({} : Command).oneShots = ∅
    decide
  constructor
  case set =>
    rw [hset]
    exact iff_of_false hempty fun ⟨_, hj, _⟩ => Nat.not_lt_zero _ hj.lt
  case requested => exact iff_of_false hempty fun ⟨_, hj, _⟩ => Nat.not_lt_zero _ hj.lt
  case inFlight => exact nofun
  case latest => exact nofun

theorem Account.snoc (h : Account timing inputs bit) (hbit : bit ∈ OneShot.all)
    (i : SessionInput) : Account timing (inputs ++ [i]) bit := by
  have htr := (reached timing inputs).step_transition i
  have hasks := htr.oneShots_of_asks hbit
  constructor
  case set =>
    rw [reached_snoc]
    by_cases hack : TakesAck (reached timing inputs) i
    · rw [htr.oneShots_of_ack hbit hack, unacknowledged_snoc_of_ack hack (h.latest hack.1),
        ← h.requested]
      constructor
      · rintro ⟨hset, hflight⟩
        exact (h.inFlight hack.1 hset).elim hflight id
      · intro hreq
        exact ⟨h.set.2 (h.requested.1 hreq).unacknowledged, fun _ => hreq⟩
    · rw [hasks hack, unacknowledged_snoc_of_not_ack hack, h.set]
  case requested =>
    rw [reached_snoc, unsent_snoc]
    by_cases hsends : SendsCommand (reached timing inputs) i
    · rw [(htr.sent hsends).2.1, (OneShot.isSingle_of_mem hbit).empty_has]
      exact iff_of_false Bool.false_ne_true fun h' => h'.1 hsends
    · rw [htr.requested hbit (Classical.not_not.1 hsends), h.requested]
      exact (and_iff_right hsends).symm
  case inFlight =>
    rw [reached_snoc]
    intro hstate hset
    by_cases hsends : SendsCommand (reached timing inputs) i
    · rw [(htr.sent hsends).2.2]
      exact .inl hset
    · have hnil := Classical.not_not.1 hsends
      obtain ⟨hs, hflight, hack⟩ := htr.inFlight hnil hstate
      rw [hflight, htr.requested hbit hnil]
      rcases (hasks hack).1 hset with hset | hasks
      · exact (h.inFlight hs hset).imp id .inl
      · exact .inr (.inr hasks)
  case latest =>
    rw [reached_snoc]
    intro hstate
    by_cases hsends : SendsCommand (reached timing inputs) i
    · exact ⟨_, latestSend_length hsends⟩
    · obtain ⟨hs, _, _⟩ := htr.inFlight (Classical.not_not.1 hsends) hstate
      obtain ⟨m, hm⟩ := h.latest hs
      exact ⟨m, latestSend_snoc hm hsends⟩

theorem account (timing : Timing) (inputs : List SessionInput) (hbit : bit ∈ OneShot.all) :
    Account timing inputs bit := by
  induction inputs using List.reverseRecOn with
  | nil => exact account_nil timing hbit
  | append_singleton inputs i ih => exact ih.snoc hbit i

/-- **What becomes of the one-shot bits** of a run. -/
structure OneShotsKept (timing : Timing) (inputs : List SessionInput) : Prop where
  /-- The bits that are set are those that are unacknowledged. -/
  set : ∀ bit ∈ OneShot.all,
    (reached timing inputs).command.oneShots.has bit = true ↔ Unacknowledged timing inputs bit
  /-- A command frame carries exactly these. -/
  carried : ∀ i, ∀ frame ∈ Action.commandFrames ((reached timing inputs).step i).2,
    ∃ c, Command.decode frame = .ok c ∧ ∀ bit ∈ OneShot.all,
      c.oneShots.has bit = true ↔ Unacknowledged timing (inputs ++ [i]) bit
  /-- An acknowledgement spares what has been asked for since the frame that it answers. -/
  spared : ∀ i, TakesAck (reached timing inputs) i → ∀ bit ∈ OneShot.all,
    Unsent timing inputs bit →
    ((reached timing inputs).step i).1.command.oneShots.has bit = true
  /-- An exchange that ends otherwise clears nothing. -/
  failed : ∀ i, (reached timing inputs).endsExchange i = true →
    ¬ TakesAck (reached timing inputs) i →
    ((reached timing inputs).step i).1.command.oneShots =
      (reached timing inputs).command.oneShots

/-- **One-shot bits are neither lost nor repeated after their acknowledgement.** -/
theorem one_shots_account (timing : Timing) (inputs : List SessionInput) :
    OneShotsKept timing inputs where
  set := fun bit hbit => (account timing inputs hbit).set
  carried := by
    intro i frame hframe
    have htr := (reached timing inputs).step_transition i
    have hcarries := htr.carries (command_wellFormed timing inputs) hframe
    refine ⟨_, hcarries.decoded, fun bit hbit => ?_⟩
    rw [← (account timing (inputs ++ [i]) hbit).set, reached_snoc]
    rfl
  spared := by
    intro i hack bit hbit hunsent
    have hset := (account timing (inputs ++ [i]) hbit).set
    rw [reached_snoc, unacknowledged_snoc_of_ack hack ((account timing inputs hbit).latest hack.1)]
      at hset
    exact hset.2 hunsent
  failed := by
    intro i hends hack
    obtain ⟨t, before, ht, _, hstep⟩ := exists_settles hends
    rw [hstep, oneShots_resolve, ht.oneShots hack]

/-- A bit that is asked for again while it is in flight outlives the first acknowledgement. -/
example :
    (reached {} [.frame ({} : Status).encode, .frame (Frame.commandAck 0), .update [.focusReset],
      .update [.focusReset], .frame (Frame.commandAck 0)]).command.oneShots =
      OneShot.focusReset := by
  decide +kernel

end DomeLink.Session
