import DomeLink.Session.Basic

/-!
# Runs of a session

Model of whoever uses a session: a driver, or a test. Nothing is assumed of the order of the inputs,
so a timer may run out that was never started.

`Session.step` gathers everything that can happen to a session under one type, and `Session.run`
lets a list of such inputs happen one after the other. A run collects the actions of each input, so
that `runActions` of an appended list is the appended actions.
-/

namespace DomeLink

/-- Something that happens to a session. -/
inductive SessionInput
  | frame (bytes : Bytes)
  | timer (timer : Timer)
  | update (changes : List Change)
  | transmitError
  | close
  deriving DecidableEq, Repr

namespace Session

/-- Lets one input happen. An update that is refused changes nothing. -/
def step (s : Session) : SessionInput → Step
  | .frame bytes => s.onFrame bytes
  | .timer timer => s.onTimer timer
  | .update changes =>
    match s.update changes with
    | .ok r => r
    | .error _ => (s, [])
  | .transmitError => s.onTransmitError
  | .close => s.close

/-- The session after the inputs. -/
def run (s : Session) (inputs : List SessionInput) : Session :=
  inputs.foldl (fun s i => (s.step i).1) s

/-- The actions of each input. -/
def runActions (s : Session) : List SessionInput → List (List Action)
  | [] => []
  | i :: is => (s.step i).2 :: (s.step i).1.runActions is

theorem run_nil (s : Session) : s.run [] = s := rfl

theorem run_cons (s : Session) (i : SessionInput) (is : List SessionInput) :
    s.run (i :: is) = (s.step i).1.run is := rfl

theorem run_append (s : Session) (is js : List SessionInput) :
    s.run (is ++ js) = (s.run is).run js := by
  simp [run]

theorem runActions_append (s : Session) (is js : List SessionInput) :
    s.runActions (is ++ js) = s.runActions is ++ (s.run is).runActions js := by
  induction is generalizing s with
  | nil => rfl
  | cons i is ih => simp [runActions, run_cons, ih]

end Session

end DomeLink
