/-!
# Grammars of command lines

Model of the declarations from which `plc_tool` has its command line.

A command takes switches, which have a name and sometimes a letter, values at fixed places, and, if
it has any, one of its subcommands. `CommandGrammar` describes all that as data. A value is tested
when it is given, so what a parser accepts needs no second test.

Out of scope: descriptions of commands and switches, which only explanations show.
-/

namespace DomeLink

/-- What a switch is for. -/
inductive SwitchRole
  /-- To be there or not. -/
  | flag
  /-- To hold a value. -/
  | value (accepts : String → Bool)
  /-- To ask for an explanation instead of anything else. -/
  | help

/-- A switch of a command. -/
structure Switch where
  /-- The name after two hyphens, which is also the key of the value. -/
  name : String
  /-- The letter after one hyphen. -/
  letter : Option Char := none
  role : SwitchRole

/-- A place for a value. -/
structure Place where
  /-- The key of the value. -/
  name : String
  required : Bool := true
  /-- What looks like a negative number is a value here, and no switch. -/
  negatives : Bool := false
  accepts : String → Bool

/-- A command and what may follow it. -/
inductive CommandGrammar
  | mk (name : String) (switches : List Switch) (places : List Place)
      (exclusive : List (String × String)) (subcommands : List CommandGrammar)

namespace CommandGrammar

/-- The name of the command. -/
def name : CommandGrammar → String
  | mk n _ _ _ _ => n

/-- The switches that the command adds to those that all commands have. -/
def switches : CommandGrammar → List Switch
  | mk _ s _ _ _ => s

/-- The places, in order. -/
def places : CommandGrammar → List Place
  | mk _ _ p _ _ => p

/-- The keys that exclude each other. -/
def exclusive : CommandGrammar → List (String × String)
  | mk _ _ _ e _ => e

/-- The subcommands; if there are any, one of them must follow. -/
def subcommands : CommandGrammar → List CommandGrammar
  | mk _ _ _ _ c => c

/-- The subcommand of a name. -/
def subcommand? (g : CommandGrammar) (name : String) : Option CommandGrammar :=
  g.subcommands.find? fun c => c.name = name

end CommandGrammar

end DomeLink
