import HdlLint.Diagnostic.Set
import HdlLint.Fault.Crash
import HdlLint.Invocation.Basic

/-!
# Results of lint runs

A run that ends by itself gives a result, also when the linter could not be run. A crash
or a cancellation ends a run without one.
-/

namespace HdlLint

/-- How a run went: nothing found, something found, or no output to read. -/
inductive RunStatus where
  | clean
  | dirty
  | error
  deriving Repr, DecidableEq

def RunStatus.name : RunStatus → String
  | clean => "clean"
  | dirty => "dirty"
  | error => "error"

/-- The result of a run. -/
structure LintResult where
  status : RunStatus
  diagnostics : DiagnosticSet := .empty
  invocation : Option Invocation := none
  code : Option Int := none
  errorDetail : Option String := none
  deriving Repr

/-- How a run ended. -/
inductive RunEnd where
  | finished (result : LintResult)
  | crashed (crash : Crash)
  | cancelled
  deriving Repr

/-- The result that a caller waiting for the run is given: a crash counts as an error, and
a cancelled run gives none. -/
def RunEnd.delivered? : RunEnd → Option LintResult
  | finished result => some result
  | crashed crash => some { status := .error, errorDetail := some crash.text }
  | cancelled => none

end HdlLint
