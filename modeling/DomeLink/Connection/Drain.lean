import DomeLink.Connection.Basic

/-!
# What happens without time passing

Model of what `run` does without time passing (`driver` in `plc-driver`; specification, section 12):
carrying out the opening actions, taking in frames and chunks, and ending after the last handle has
been dropped. Requests are in `Connection/Client`, timers in `Connection/Clock`.

`proceed?` is the next thing that can happen at an instant: a frame is handled before the next chunk
is read, the end of the inbound stream is noticed after its last chunk, and after all of that a
session that nobody holds a handle to ends. `drain` lets all of it happen. `settle` does so too, and
lets the session begin if it has not begun.

`proceed?_lt`: each such step ends the session, or takes from its potential, or, with that unchanged
or smaller, from what is still to be read, or from the frames still to be handled. So `drain` ends
whatever the far end answers.
-/

namespace DomeLink.Connection

variable {π : Type} [Peer π]

/-- Handles a frame. -/
def handleFrame (c : Connection π) (frame : Bytes) : Connection π :=
  let r := c.session.onFrame frame
  { c with session := r.1 }.execute r.2

/-- Reads a chunk; the frames that it completes are to be handled. -/
def readChunk (c : Connection π) (chunk : Bytes) : Connection π :=
  let r := c.line.receive chunk
  { c with line := r.line, frames := c.frames ++ r.delivered.map Prod.snd }

/-- Notices the end of the inbound stream: there is nothing to send to any more. -/
def noticeEnd (c : Connection π) : Connection π :=
  { c with reading := false, line := c.line.unbind.1 }

/-- Takes in the next of what has arrived. -/
def takeIn? (c : Connection π) : Option (Connection π) :=
  match c.frames, c.inbound with
  | frame :: rest, _ => some ({ c with frames := rest }.handleFrame frame)
  | [], chunk :: rest =>
    if c.reading then some ({ c with inbound := rest }.readChunk chunk) else none
  | [], [] => if c.reading && c.hungUp then some c.noticeEnd else none

/-- The next thing that can happen without time passing. -/
def proceed? (c : Connection π) : Option (Connection π) :=
  if c.running then
    match c.takeIn? with
    | some d => some d
    | none => if c.isAbandoned then some c.shutDown else none
  else none

/-- What there is still to read. -/
def unread (c : Connection π) : Nat := c.inbound.length + c.reading.toNat

/-- Handling a frame uses up potential, or leaves what there is to read as it was. -/
theorem handleFrame_lt_or (c : Connection π) (frame : Bytes) :
    (c.handleFrame frame).session.potential < c.session.potential ∨
      (c.handleFrame frame).session.potential ≤ c.session.potential ∧
        (c.handleFrame frame).unread = c.unread := by
  have hle := Session.potential_onFrame_le c.session frame
  unfold handleFrame
  by_cases hs : Action.sends (c.session.onFrame frame).2 = 0
  · refine Or.inr ⟨?_, ?_⟩
    · rw [session_execute_of_sends_eq_zero _ _ hs]
      exact Nat.le_trans (Nat.le_add_right _ _) hle
    · simp [unread, inbound_execute_of_sends_eq_zero _ _ hs]
  · refine Or.inl (Nat.lt_of_le_of_lt (potential_execute_le _ _) ?_)
    show (c.session.onFrame frame).1.potential < c.session.potential
    omega

/-- Taking in what has arrived goes down in the order that `drain` follows. -/
theorem takeIn?_lt {c d : Connection π} (h : c.takeIn? = some d) :
    d.session.potential < c.session.potential ∨
      d.session.potential ≤ c.session.potential ∧
        (d.unread < c.unread ∨ d.unread = c.unread ∧ d.frames.length < c.frames.length) := by
  unfold takeIn? at h
  split at h
  · rename_i frame rest hf
    obtain rfl := Option.some.inj h
    rcases handleFrame_lt_or { c with frames := rest } frame with hlt | ⟨hle, hu⟩
    · exact Or.inl hlt
    · refine Or.inr ⟨hle, Or.inr ⟨hu, ?_⟩⟩
      simp [handleFrame, hf]
  · rename_i chunk rest _ hi
    split at h
    · obtain rfl := Option.some.inj h
      refine Or.inr ⟨Nat.le_refl _, Or.inl ?_⟩
      simp [unread, readChunk, hi]
    · simp at h
  · split at h
    · rename_i hr
      obtain rfl := Option.some.inj h
      rw [Bool.and_eq_true] at hr
      refine Or.inr ⟨Nat.le_refl _, Or.inl ?_⟩
      simp [unread, noticeEnd, hr.1]
    · simp at h

/-- Taking in what has arrived takes no time and does not end the session. -/
theorem now_running_takeIn? {c d : Connection π} (h : c.takeIn? = some d) :
    d.now = c.now ∧ d.running = c.running := by
  unfold takeIn? at h
  split at h
  · obtain rfl := Option.some.inj h
    simp [handleFrame]
  · split at h
    · obtain rfl := Option.some.inj h
      exact ⟨rfl, rfl⟩
    · simp at h
  · split at h
    · obtain rfl := Option.some.inj h
      exact ⟨rfl, rfl⟩
    · simp at h

/-- Every step without time passing goes down in the order that `drain` follows. -/
theorem proceed?_lt {c d : Connection π} (h : c.proceed? = some d) :
    d.running.toNat < c.running.toNat ∨ d.running = c.running ∧
      (d.session.potential < c.session.potential ∨
        d.session.potential ≤ c.session.potential ∧
          (d.unread < c.unread ∨ d.unread = c.unread ∧ d.frames.length < c.frames.length)) := by
  unfold proceed? at h
  split at h
  · rename_i hrun
    split at h
    · rename_i e he
      obtain rfl := Option.some.inj h
      exact Or.inr ⟨(now_running_takeIn? he).2, takeIn?_lt he⟩
    · split at h
      · obtain rfl := Option.some.inj h
        exact Or.inl (by simp [shutDown, hrun])
      · simp at h
  · simp at h

/-- Lets everything happen that can happen without time passing. -/
def drain (c : Connection π) : Connection π :=
  match _h : c.proceed? with
  | none => c
  | some d => drain d
termination_by (c.running.toNat, c.session.potential, c.unread, c.frames.length)
decreasing_by
  rcases proceed?_lt _h with hrun | ⟨hrun, hlt | ⟨hle, hu⟩⟩
  · exact Prod.Lex.left _ _ hrun
  · rw [hrun]
    exact Prod.Lex.right _ (Prod.Lex.left _ _ hlt)
  · rw [hrun]
    refine Prod.Lex.right _ ?_
    rcases Nat.lt_or_eq_of_le hle with hlt | heq
    · exact Prod.Lex.left _ _ hlt
    · rw [heq]
      refine Prod.Lex.right _ ?_
      rcases hu with hu | ⟨hu, hf⟩
      · exact Prod.Lex.left _ _ hu
      · rw [hu]
        exact Prod.Lex.right _ hf

/-- Carries out what the session wants done at its beginning. -/
def start (c : Connection π) : Connection π := { c with opening := [] }.execute c.opening

/-- Lets everything happen that can happen without time passing, the beginning of the session
included. -/
def settle (c : Connection π) : Connection π := c.start.drain

theorem now_proceed? {c d : Connection π} (h : c.proceed? = some d) : d.now = c.now := by
  unfold proceed? at h
  split at h
  · split at h
    · rename_i e he
      obtain rfl := Option.some.inj h
      exact (now_running_takeIn? he).1
    · split at h
      · obtain rfl := Option.some.inj h
        exact now_shutDown c
      · simp at h
  · simp at h

@[simp] theorem now_drain (c : Connection π) : c.drain.now = c.now := by
  fun_induction drain c with
  | case1 => rfl
  | case2 c d h ih => rw [ih, now_proceed? h]

@[simp] theorem now_settle (c : Connection π) : c.settle.now = c.now := by
  simp [settle, start]

/-- Nothing is left to happen after `drain`. -/
theorem proceed?_drain (c : Connection π) : c.drain.proceed? = none := by
  fun_induction drain c with
  | case1 c h => exact h
  | case2 c d h ih => exact ih

/-- Nothing is left to happen after `settle`. -/
theorem proceed?_settle (c : Connection π) : c.settle.proceed? = none := proceed?_drain _

end DomeLink.Connection
