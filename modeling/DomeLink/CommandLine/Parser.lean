import DomeLink.CommandLine.Grammar

/-!
# Parsing command lines

Model of the rules by which the command line of `plc_tool` is read.

`CommandLine.parse` goes through the arguments from left to right.

* `--name` is a switch, and so is every letter after a single hyphen. A value stands in the same
  argument, after `=` or right after the letter, or it is the next argument, which must not look
  like a switch.
* After `--` every argument is a value for a place.
* The name of a subcommand, where no value is awaited, hands the rest over to it.
* All else is a value for the next place.

A switch may stand once for each command on the way; a switch of all commands may stand with each
of them, and the last of these wins.

Out of scope: the texts of explanations and of complaints about the usage, and arguments that are no
text.
-/

namespace DomeLink.CommandLine

/-- Why a command line is not carried out. -/
inductive Stop
  /-- It does not follow the grammar. -/
  | usage
  /-- It asks for an explanation. -/
  | help
  deriving DecidableEq, Repr

/-- A command on the way, with the values given to it. -/
structure Level where
  command : String
  values : List (String × String)
  deriving DecidableEq, Repr

/-- What has been read for a command. -/
structure Progress where
  values : List (String × String) := []
  /-- The switch that awaits its value. -/
  pending : Option (String × (String → Bool)) := none
  /-- The number of places that are filled. -/
  filled : Nat := 0
  /-- Only values follow. -/
  trailing : Bool := false

/-! ## The shapes of arguments -/

/-- The text up to the first `=` and, if there is one, the text after it. -/
def splitValue (cs : List Char) : String × Option String :=
  match cs.dropWhile (· ≠ '=') with
  | [] => (String.ofList cs, none)
  | _ :: value => (String.ofList (cs.takeWhile (· ≠ '=')), some (String.ofList value))

/-- The exponent of a number, and nothing after it. -/
def isExponent : List Char → Bool
  | [] => true
  | c :: cs => (c = 'e' || c = 'E') && !cs.isEmpty && cs.all Char.isDigit

/-- The fraction of a number with its exponent, and nothing after it. -/
def isFraction : List Char → Bool
  | '.' :: cs => isExponent (cs.dropWhile Char.isDigit)
  | cs => isExponent cs

/-- The text is a number as it may follow a minus sign. -/
def isNumber (cs : List Char) : Bool :=
  (cs.head?.map Char.isDigit).getD false && isFraction (cs.dropWhile Char.isDigit)

/-! ## Values -/

/-- Gives a value to a key that has none. -/
def Progress.give (p : Progress) (key : String) (accepts : String → Bool) (value : String) :
    Except Stop Progress :=
  if (p.values.any fun v => v.1 = key) || !accepts value then .error .usage
  else .ok { p with values := p.values ++ [(key, value)], pending := none }

/-- Fills the next place. -/
def Progress.fill (g : CommandGrammar) (p : Progress) (value : String) : Except Stop Progress :=
  match g.places[p.filled]? with
  | none => .error .usage
  | some place => ({ p with filled := p.filled + 1 }).give place.name place.accepts value

/-- Takes a switch, with the value that stands in the same argument. -/
def Progress.takeSwitch (p : Progress) (s : Switch) (attached : Option String) :
    Except Stop Progress :=
  if p.pending.isSome then .error .usage
  else
    match s.role, attached with
    | .value accepts, some v => p.give s.name accepts v
    | .value accepts, none => .ok { p with pending := some (s.name, accepts) }
    | .flag, none => p.give s.name (fun _ => true) "true"
    | .help, none => .error .help
    | _, some _ => .error .usage

/-- Takes the letters after a single hyphen. -/
def Progress.takeLetters (switches : List Switch) (p : Progress) :
    List Char → Except Stop Progress
  | [] => .ok p
  | c :: rest =>
    match switches.find? fun s => s.letter = some c with
    | none => .error .usage
    | some s =>
      match s.role, rest with
      | .value _, [] => p.takeSwitch s none
      | .value _, '=' :: v => p.takeSwitch s (some (String.ofList v))
      | .value _, v => p.takeSwitch s (some (String.ofList v))
      | _, _ => do takeLetters switches (← p.takeSwitch s none) rest

/-- Takes an argument that is no switch. -/
def Progress.takeWord (g : CommandGrammar) (p : Progress) (arg : String) : Except Stop Progress :=
  match p.pending with
  | some (key, accepts) => p.give key accepts arg
  | none => p.fill g arg

/-- What looks like a negative number is a value here. -/
def Progress.wantsNegative (g : CommandGrammar) (p : Progress) : Bool :=
  (g.places[p.filled]?.map Place.negatives).getD false

/-- Takes an argument that is no subcommand. -/
def Progress.take (globals : List Switch) (g : CommandGrammar) (p : Progress) (arg : String) :
    Except Stop Progress :=
  if p.trailing then p.fill g arg
  else
    match arg.toList with
    | ['-', '-'] => if p.pending.isSome then .error .usage else .ok { p with trailing := true }
    | '-' :: '-' :: cs =>
      let (name, value) := splitValue cs
      match (g.switches ++ globals).find? fun s => s.name = name with
      | some s => p.takeSwitch s value
      | none => .error .usage
    | '-' :: c :: cs =>
      if p.wantsNegative g && isNumber (c :: cs) then p.takeWord g arg
      else p.takeLetters (g.switches ++ globals) (c :: cs)
    | _ => p.takeWord g arg

/-- The rules that what was given to a command must keep. -/
def Progress.isComplete (g : CommandGrammar) (p : Progress) : Bool :=
  let has (key : String) := p.values.any fun v => v.1 = key
  p.pending.isNone && g.places.all (fun place => !place.required || has place.name) &&
    !g.exclusive.any fun e => has e.1 && has e.2

/-! ## Command lines -/

/-- Follows the names after `help`. The command `help` itself may come last: there is nothing under
it that could be named. -/
def explain (g : CommandGrammar) : List String → Stop
  | [] => .help
  | name :: rest =>
    match g.subcommand? name with
    | some c => explain c rest
    | none =>
      if name = "help" && !g.subcommands.isEmpty && rest.isEmpty then .help else .usage

/-- Goes through the arguments of a command. -/
def parseLevel (globals : List Switch) (g : CommandGrammar) (p : Progress) :
    List String → Except Stop (List Level)
  | [] =>
    if p.isComplete g && g.subcommands.isEmpty then .ok [⟨g.name, p.values⟩] else .error .usage
  | arg :: rest =>
    let isName := !p.trailing && p.pending.isNone && !g.subcommands.isEmpty
    match isName, g.subcommand? arg with
    | true, some c => do
      let levels ← parseLevel globals c {} rest
      return ⟨g.name, p.values⟩ :: levels
    | _, _ =>
      if isName && arg = "help" then .error (explain g rest)
      else do parseLevel globals g (← p.take globals g arg) rest

/-- The commands on the way, the outermost first. -/
def parse (globals : List Switch) (g : CommandGrammar) (args : List String) :
    Except Stop (List Level) :=
  parseLevel globals g {} args

/-- The value of a switch of all commands: the one given last on the way. -/
def globalValue? (levels : List Level) (key : String) : Option String :=
  (levels.filterMap fun l => l.values.lookup key).getLast?

end DomeLink.CommandLine
