import HdlLint.Child.Basic
import HdlLint.Invocation.Translation
import HdlLint.Log.Basic
import HdlLint.Path.Platform
import HdlLint.Report.Table
import HdlLint.Settings.Load

/-!
# Commands

A command is started with arguments in a situation, and it ends with an outcome.
`Situation` holds all that a command can find out about the world, `Outcome` all that it
has done to it.
-/

namespace HdlLint.CommandLine

/-- What a command finds when it is started. -/
structure Situation where
  surroundings : Settings.Surroundings
  environment : List (String × String)
  platform : Platform
  translator : Translator
  /-- What the linter does when it is launched. -/
  child : ChildBehavior
  /-- The readings of the clock in seconds; the last one repeats. -/
  clock : List Binary64
  /-- The time as it stands in log lines. -/
  time : String
  screen : Report.Screen

/-- The reading of the clock that comes after a number of others. -/
def Situation.reading (s : Situation) (n : Nat) : Binary64 :=
  s.clock.getD (min n (s.clock.length - 1)) .zero

/-- How a command ends. -/
inductive Ending where
  | code (n : Nat)
  | crash (c : Crash)
  deriving Repr, DecidableEq

/-- The exit code of an ending: a crash counts as one. -/
def Ending.exitCode : Ending → Nat
  | code n => n
  | crash _ => 1

/-- What a command has done. -/
structure Outcome where
  ending : Ending
  outlets : Outlets
  actions : List ChildAction := []

namespace Outcome

/-- The outcome of a command that prints a text and succeeds. -/
def printing (outlets : Outlets) (text : String) : Outcome :=
  { ending := .code 0, outlets := { outlets with output := outlets.output ++ text } }

/-- The outcome of a command that complains and ends with a code. -/
def complaining (outlets : Outlets) (text : String) (code : Nat) : Outcome :=
  { ending := .code code, outlets := { outlets with errors := outlets.errors ++ text } }

/-- The exit code of a wrong use. -/
def misuseCode : Nat := 2

/-- The exit code of a failure that is no wrong use. -/
def failureCode : Nat := 1

end Outcome

end HdlLint.CommandLine
