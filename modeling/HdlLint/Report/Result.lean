import HdlLint.Report.Table
import HdlLint.Session.Result
import HdlLint.Value.Json

/-!
# Reports of lint runs

The result of a run is reported as one JSON text, from which it can be recovered, or in
words: a table of the diagnostics, or one line if there are none or the linter could not
be run.
-/

namespace HdlLint

/-- A place in a file as a map. -/
def placeValue (line column : Int) : Value :=
  .map [(.text "line", .int line), (.text "column", .int column)]

def Diagnostic.toValue (d : Diagnostic) : Value :=
  .map [(.text "path", .text d.path), (.text "severity", .text d.severity.name),
    (.text "code", .text d.code), (.text "source", .text d.source),
    (.text "message", .text d.message),
    (.text "range", .map [(.text "start", placeValue d.line d.column),
      (.text "end", placeValue d.endLine d.endColumn)])]

/-- The diagnostics of each file as a map. -/
def DiagnosticSet.toValue (s : DiagnosticSet) : Value :=
  .map (s.groups.map fun (file, ds) => (.text file, .list (ds.map Diagnostic.toValue)))

namespace LintResult

/-- The decimal places to which durations are rounded. -/
def durationPlaces : Nat := 3

/-- A result, and the seconds the run has taken, as a map. -/
def toValue (r : LintResult) (seconds : Binary64) : Value :=
  .map [(.text "status", .text r.status.name),
    (.text "command", .ofText? (r.invocation.map Invocation.command)),
    (.text "returncode", .ofInt? r.code), (.text "error", .ofText? r.errorDetail),
    (.text "duration_seconds", .real (seconds.roundPlaces durationPlaces)),
    (.text "diagnostics", r.diagnostics.toValue)]

def severityColor : Severity → String
  | .error => "red"
  | .warning => "yellow"
  | .information => "cyan"

def styled (style text : String) : String :=
  "[" ++ style ++ "]" ++ text ++ "[/" ++ style ++ "]"

/-- The row of a diagnostic: lines and columns are counted from one. -/
def row (file : String) (d : Diagnostic) : List String :=
  [file ++ ":" ++ toString (d.line + 1) ++ ":" ++ toString (d.column + 1),
    styled (severityColor d.severity) d.severity.name, d.code, d.message]

def table (s : DiagnosticSet) : Report.Table :=
  ⟨["location", "severity", "code", "message"],
    s.groups.flatMap fun (file, ds) => ds.map (row file)⟩

def countLine (s : DiagnosticSet) : String :=
  toString s.size ++ " issue(s) in " ++ toString s.files.length ++ " file(s)"

/-- Lines, each with a line end. -/
def joinLines (lines : List (List Char)) : String :=
  String.ofList (lines.flatMap fun l => l ++ ['\n'])

/-- A text with markup on lines of its own, on a screen of a width. -/
def printed (screen : Nat) (s : String) : Except Crash String := do
  pure (joinLines (← Report.printed screen s))

/-- Where a report in words goes. -/
inductive Announcement where
  | output (text : String)
  | errors (text : String)
  deriving Repr, DecidableEq

/-- A result in words, for a document. -/
def inWords (r : LintResult) (screen : Report.Screen) (document : String) :
    Except Crash Announcement := do
  if r.status = .error then
    let detail := r.errorDetail.getD "None"
    pure (.errors
      (← printed screen.errors (styled "red" "Lint failed" ++ ": " ++ detail)))
  else if !r.diagnostics.isNonempty then
    pure (.output
      (← printed screen.output (styled "green" "No issues" ++ " in " ++ document)))
  else
    let lines ← (table r.diagnostics).render screen.output
    pure (.output
      (joinLines lines ++ (← printed screen.output ("\n" ++ countLine r.diagnostics))))

end LintResult

end HdlLint
