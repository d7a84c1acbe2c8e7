import HdlLint.CommandLine.Lint

/-!
# The command line

The program has one command, which is named by the first operand; what stands before it
are the options of the program. `run` gives the outcome of the program for its arguments.
-/

namespace HdlLint.CommandLine

/-- The options of the program. -/
inductive MainOption where
  | version
  | verbose
  | help
  deriving Repr, DecidableEq

def mainForms : List (OptionForm MainOption) :=
  [⟨"--version", .version, some true⟩, ⟨"-v", .verbose, some true⟩,
    ⟨"--verbose", .verbose, some true⟩, ⟨"--help", .help, some true⟩]

def commandNames : List String := ["lint"]

/-- The log as the program begins: a console with a level of its own. -/
def initialLog (o : Outlets) (verbose : Bool) : Log :=
  (({ outlets := o } : Log).configure { level := consoleLevel verbose }).2

/-- The text that an option asks for, if it asks for one. -/
def requestedText? : MainOption → Option String
  | .version => some versionText
  | .help => some mainHelp
  | .verbose => none

/-- The outcome of a wrong use of the program. -/
def mainMisuse (o : Outlets) (message : String) : Outcome :=
  .complaining o (misuse mainUsage mainCommand message) Outcome.misuseCode

/-- What the options of the program lead to if they end it: a fault in them, or a text
they ask for. -/
def endingOf (o : Outlets) : Except OptionFault (Arguments MainOption) → Option Outcome
  | .error fault =>
    some (if fault.recallsUsage then mainMisuse o fault.message
      else .complaining o ("Error: " ++ fault.message ++ "\n") Outcome.misuseCode)
  | .ok a => (a.keys.findSome? requestedText?).map (.printing o)

/-- The outcome for a command that does not exist. One that looks like an option is read
as such first. -/
def unknownCommand (o : Outlets) (name : String) (args : List String) : Outcome :=
  match endingOf o (readArguments closest mainForms false args) with
  | some outcome => outcome
  | none => mainMisuse o
    (suggesting ("No such command " ++ Text.quoted name ++ ".")
      (closest name commandNames))

/-- The outcome of the program. Without any arguments it complains with its help. -/
def run (s : Situation) (args : List String) : Outcome :=
  let outlets : Outlets := { tree := s.surroundings.tree }
  if args.isEmpty then .complaining outlets mainHelp Outcome.misuseCode
  else
    let read := readArguments closest mainForms false args
    match endingOf outlets read, read with
    | some outcome, _ => outcome
    | none, .error _ => mainMisuse outlets ""
    | none, .ok a =>
      match a.operands with
      | [] => mainMisuse outlets "Missing command."
      | name :: rest =>
        if commandNames.contains name then
          lint s (initialLog outlets (a.has .verbose)) (a.has .verbose) rest
        else unknownCommand outlets name a.operands

end HdlLint.CommandLine
