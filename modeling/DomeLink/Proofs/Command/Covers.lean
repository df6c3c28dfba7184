import DomeLink.Command.Reconcile
import DomeLink.Proofs.Command.Change
import DomeLink.Proofs.Command.RoundTrip
import Mathlib.Tactic.ByContra

/-!
# Requests to the covers of the dome

The dome has two covers, the main shutter and the dropout below it, and each of them can be asked to
open or to close. A `CoverRequest` is one of these four requests. It stands in the command until a
status reports it as done, or until a change to the same cover replaces it.

* `isMade_confirm`: a status takes back what it reports as done, and no other request.
* `isConfirmedBy_iff`: a command is changed by a status exactly if a request is taken back.
* `withoutCovers_confirm`: a status touches nothing else of the command.
* `isMade_changeAll`: changes to other mechanisms leave the request as it is.
-/

namespace DomeLink

/-- A request to the main shutter or to the dropout. -/
inductive CoverRequest
  | openShutter
  | closeShutter
  | openDropout
  | closeDropout
  deriving DecidableEq, Repr

namespace CoverRequest

/-- The command makes the request. -/
def isMade (q : CoverRequest) (c : Command) : Bool :=
  match q with
  | openShutter => c.shutter.has ShutterCommand.opening
  | closeShutter => c.shutter.has ShutterCommand.closing
  | openDropout => c.dropout.has DropoutCommand.opening
  | closeDropout => c.dropout.has DropoutCommand.closing

/-- The status reports the request as done. -/
def isDone (q : CoverRequest) (s : Status) : Bool :=
  match q with
  | openShutter => s.shutter.has ShutterStatus.opened
  | closeShutter => s.shutter.has ShutterStatus.closed
  | openDropout => s.dropout.has DropoutStatus.opened
  | closeDropout => s.dropout.has DropoutStatus.closed

/-- The change is one to the cover that the request is made to. -/
def isAbout (q : CoverRequest) : Change → Bool
  | .shutter _ => q = openShutter || q = closeShutter
  | .dropout _ => q = openDropout || q = closeDropout
  | _ => false

end CoverRequest

namespace Command

open Flags

/-- What a frame carries of the command, less the requests to the covers. -/
def withoutCovers (c : Command) : Command :=
  { c.wire with
    shutter := c.shutter.erase (ShutterCommand.opening.insert ShutterCommand.closing)
    dropout := c.dropout.erase (DropoutCommand.opening.insert DropoutCommand.closing) }

variable {c c' : Command} {s : Status} {q : CoverRequest}

/-! ## Reported status -/

section

variable {t : FlagTable}

/-- A flag is erased in vain if it is not set. -/
theorem eraseWhen_eq_self {x m : Flags t} {on : Bool} (hm : m.IsSingle)
    (h : x.has m = true → on = false) : eraseWhen x m on = x := by
  cases on with
  | false => rfl
  | true =>
    have hnot : x.has m = false := Bool.eq_false_iff.2 fun hx => Bool.noConfusion (h hx)
    exact erase_eq_self ((hm.meets_eq_has x).trans hnot)

theorem erase_eraseWhen_of_has {m n : Flags t} (h : m.has n = true) (x : Flags t) (on : Bool) :
    (eraseWhen x n on).erase m = x.erase m := by
  cases on with
  | false => rfl
  | true => exact erase_erase_of_has h x

end

/-- **A status takes back what it reports as done**, and no other request. -/
theorem isMade_confirm (q : CoverRequest) (c : Command) (s : Status) :
    q.isMade (c.confirm s) = (q.isMade c && !q.isDone s) := by
  cases q <;> simp (disch := decide) [CoverRequest.isMade, CoverRequest.isDone, confirm]

/-- A status that reports no request as done takes nothing back. -/
theorem confirm_eq_self_of_not_done
    (h : ∀ q : CoverRequest, q.isMade c = true → q.isDone s = false) : c.confirm s = c := by
  have hopenShutter : eraseWhen c.shutter ShutterCommand.opening
      (s.shutter.has ShutterStatus.opened) = c.shutter :=
    eraseWhen_eq_self ⟨0, by decide⟩ (h .openShutter)
  have hcloseShutter : eraseWhen c.shutter ShutterCommand.closing
      (s.shutter.has ShutterStatus.closed) = c.shutter :=
    eraseWhen_eq_self ⟨1, by decide⟩ (h .closeShutter)
  have hopenDropout : eraseWhen c.dropout DropoutCommand.opening
      (s.dropout.has DropoutStatus.opened) = c.dropout :=
    eraseWhen_eq_self ⟨0, by decide⟩ (h .openDropout)
  have hcloseDropout : eraseWhen c.dropout DropoutCommand.closing
      (s.dropout.has DropoutStatus.closed) = c.dropout :=
    eraseWhen_eq_self ⟨1, by decide⟩ (h .closeDropout)
  rw [confirm, hopenShutter, hcloseShutter, hopenDropout, hcloseDropout]

/-- **A status changes the command** exactly if it takes a request back. -/
theorem isConfirmedBy_iff :
    c.isConfirmedBy s = true ↔
      ∃ q : CoverRequest, q.isMade c = true ∧ q.isMade (c.confirm s) = false := by
  rw [isConfirmedBy, decide_eq_true_iff]
  constructor
  · intro hne
    by_contra hnone
    refine hne (confirm_eq_self_of_not_done fun q hmade => ?_)
    have hkept : q.isMade (c.confirm s) = true := by
      by_contra hnot
      exact hnone ⟨q, hmade, Bool.eq_false_iff.2 hnot⟩
    rw [isMade_confirm, hmade, Bool.true_and, Bool.not_eq_true'] at hkept
    exact hkept
  · rintro ⟨q, hmade, hnot⟩ heq
    rw [heq, hmade] at hnot
    cases hnot

/-- A status touches nothing but the requests to the covers. -/
theorem withoutCovers_confirm (c : Command) (s : Status) :
    (c.confirm s).withoutCovers = c.withoutCovers := by
  simp (disch := decide) only [withoutCovers, wire, confirm, erase_eraseWhen_of_has]

/-! ## Changes -/

/-- A change to another mechanism leaves the request as it is. -/
theorem isMade_make (c : Command) {m : Change} (h : q.isAbout m = false) :
    q.isMade (c.make m) = q.isMade c := by
  cases m with
  | shutter action => cases q <;> first | rfl | cases h
  | dropout action => cases q <;> first | rfl | cases h
  | acqMirror action => cases action <;> rfl
  | wheel wheel action => cases wheel <;> cases action <;> rfl
  | _ => rfl

/-- **Changes to other mechanisms leave the request as it is.** -/
theorem isMade_changeAll {ms : List Change} (hms : c.changeAll ms = .ok c')
    (h : ∀ m ∈ ms, q.isAbout m = false) : q.isMade c' = q.isMade c := by
  induction ms generalizing c with
  | nil => rw [changeAll_nil_eq_ok.1 hms]
  | cons m ms ih =>
    obtain ⟨-, hrest⟩ := changeAll_cons_eq_ok.1 hms
    rw [ih hrest fun m' hm' => h m' (List.mem_cons_of_mem m hm'),
      isMade_make c (h m List.mem_cons_self)]

end Command

end DomeLink
