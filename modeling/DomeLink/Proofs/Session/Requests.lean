import DomeLink.Proofs.Session.Transition

/-!
# One request at a time

A step of a session sends one frame at most. If it sends one, the frame goes out as the last of the
actions, right after the response timer has been started, and its reply is awaited from then on
(`Asks`). A step that finds a request outstanding gives that request up first, by cancelling the
response timer; only the request for the initial status is repeated, when its response timer has
run out.

* `Transition.asks`: what a single step sends.
* `one_request_outstanding`: the same for every run from the opening.
-/

namespace DomeLink.Session

/-- **The step makes a request**: it ends with the frame, sent right after the response timer has
been started, and then waits for the reply that belongs to it. -/
structure Asks (timing : Timing) (r : Step) (before : List Action) (frame : Bytes) : Prop where
  actions : r.2 = before ++ [.arm .response timing.responseTimeoutMs.toNat, .transmit frame]
  quiet : Action.sends before = 0
  awaiting : r.1.state.isAwaiting = true
  /-- While a status is awaited, the frame is the status request. -/
  status : r.1.state = .awaitInitialStatus ∨ r.1.state = .awaitStatus → frame = Frame.statusRequest
  /-- While an acknowledgement is awaited, the frame is the command. -/
  command : r.1.state = .awaitCommandAck → frame = r.1.command.encode

variable {timing : Timing} {r : Step} {before : List Action} {frame : Bytes}

theorem Asks.prepend (h : Asks timing r before frame) (as : List Action)
    (has : Action.sends as = 0) : Asks timing (r.1, as ++ r.2) (as ++ before) frame where
  actions := by rw [h.actions, List.append_assoc]
  quiet := by rw [Action.sends_append, has, h.quiet]
  awaiting := h.awaiting
  status := h.status
  command := h.command

theorem Asks.sends (h : Asks timing r before frame) : Action.sends r.2 = 1 := by
  rw [h.actions, Action.sends_append, h.quiet]
  rfl

theorem not_mem_of_sends_eq_zero {as : List Action} (h : Action.sends as = 0) :
    .transmit frame ∉ as := by
  intro hmem
  exact List.countP_eq_zero.1 h _ hmem rfl

/-- The frame of the request is the only one that the step sends. -/
theorem Asks.eq_of_mem (h : Asks timing r before frame) {other : Bytes}
    (hother : .transmit other ∈ r.2) : other = frame := by
  rw [h.actions, List.mem_append] at hother
  rcases hother with hmem | hmem
  · exact absurd hmem (not_mem_of_sends_eq_zero h.quiet)
  · simpa using hmem

/-! ## What each part of a step sends -/

variable {s : Session}

theorem asks_requestStatus {awaiting : SessionState}
    (h : awaiting = .awaitInitialStatus ∨ awaiting = .awaitStatus) :
    Asks s.timing (s.requestStatus awaiting) [] Frame.statusRequest where
  actions := rfl
  quiet := rfl
  awaiting := by rcases h with rfl | rfl <;> rfl
  status := fun _ => rfl
  command := by
    intro hack
    rcases h with rfl | rfl <;> cases hack

theorem asks_opened (timing : Timing) :
    Asks timing (opened timing) [] Frame.statusRequest :=
  asks_requestStatus (s := { timing }) (.inl rfl)

theorem asks_sendCommand (s : Session) :
    Asks s.timing s.sendCommand [] s.command.encode where
  actions := rfl
  quiet := rfl
  awaiting := rfl
  status := by rintro (h | h) <;> cases h
  command := fun _ => rfl

theorem asks_resolve (s : Session) :
    Action.sends s.resolve.2 = 0 ∨ Asks s.timing s.resolve [] s.command.encode := by
  unfold resolve
  split
  · exact .inr (asks_sendCommand s)
  · exact .inl rfl

/-- The request that was outstanding has been given up before the new one, or it is the request for
the initial status, made again when the time for its reply has run out. -/
def MayAsk (s : Session) (i : SessionInput) (before : List Action) (frame : Bytes) : Prop :=
  s.state.isAwaiting = true →
    .cancel .response ∈ before ∨
      (i = .timer .response ∧ s.state = .awaitInitialStatus ∧ frame = Frame.statusRequest)

theorem mayAsk_of_idle {i : SessionInput} (h : s.state = .idle) : MayAsk s i before frame := by
  intro hs
  rw [h] at hs
  cases hs

/-- **What a step sends**: nothing, or one request. -/
theorem Transition.asks {i : SessionInput} (h : Transition s i r) :
    Action.sends r.2 = 0 ∨
      ∃ before frame, Asks s.timing r before frame ∧ MayAsk s i before frame := by
  cases h with
  | ignore | updateLater | updateClosed => exact .inl rfl
  | pollLater | beatLater => exact .inl rfl
  | close => exact .inl rfl
  | retry h => exact .inr ⟨_, _, asks_requestStatus (.inl rfl), fun _ => .inr ⟨rfl, h, rfl⟩⟩
  | poll h =>
    exact .inr ⟨_, _, (asks_requestStatus (.inr rfl)).prepend [s.arm .statusPoll] rfl,
      mayAsk_of_idle h⟩
  | beat h =>
    exact .inr ⟨_, _, (asks_sendCommand s).prepend [s.arm .heartbeat] rfl,
      mayAsk_of_idle h⟩
  | @update _ c _ h =>
    exact .inr ⟨_, _, asks_sendCommand { s with command := c }, mayAsk_of_idle h⟩
  | @finish _ t before ht hcancel hsends =>
    rcases asks_resolve t with hquiet | hasks
    · left
      rw [Action.sends_append, hsends, hquiet]
    · rw [ht.timing] at hasks
      exact .inr ⟨_, _, hasks.prepend before hsends, fun _ => .inl (List.mem_append_left _ hcancel)⟩

/-! ## Runs -/

/-- **One request is outstanding at most.** The opening makes a request. After any inputs, one more
input sends one frame at most; if it sends one, it makes a request, and gives up the request that
was outstanding or asks for the initial status again. -/
theorem one_request_outstanding (timing : Timing) :
    (∃ before frame, Asks timing (opened timing) before frame) ∧
      ∀ inputs i, Action.sends ((reached timing inputs).step i).2 ≤ 1 ∧
        ∀ frame, .transmit frame ∈ ((reached timing inputs).step i).2 →
          ∃ before, Asks timing ((reached timing inputs).step i) before frame ∧
            MayAsk (reached timing inputs) i before frame := by
  refine ⟨⟨[], _, asks_requestStatus (s := { timing }) (.inl rfl)⟩, fun inputs i => ?_⟩
  have htr := (reached timing inputs).step_transition i
  rcases htr.asks with hquiet | ⟨before, frame, hasks, hmay⟩
  · constructor
    · rw [hquiet]
      exact Nat.zero_le 1
    · intro frame hmem
      exact absurd hmem (not_mem_of_sends_eq_zero hquiet)
  · rw [timing_reached] at hasks
    constructor
    · exact Nat.le_of_eq hasks.sends
    · intro other hmem
      rw [hasks.eq_of_mem hmem]
      exact ⟨before, hasks, hmay⟩

end DomeLink.Session
