import HdlLint.Diagnostic.Line
import HdlLint.Diagnostic.Set
import HdlLint.Log.Event
import HdlLint.Path.Platform
import HdlLint.Text.Integer
import HdlLint.Text.Lines

/-!
# Transcripts

A transcript is what the linter writes to its error stream. `Transcript.read` takes every
line once: a blank line says nothing, a line that is no diagnostic line is reported, and a
diagnostic line whose line number can be located becomes a diagnostic.
-/

namespace HdlLint

/-- How reported paths are to be understood. -/
structure PathScope where
  /-- The linter ran in the folder of the file, so that its paths stand for themselves. -/
  atFile : Bool
  /-- The folder it ran in otherwise. -/
  root : Option String
  platform : Platform
  deriving Repr, DecidableEq

/-- The path that a reported path stands for. A relative one is taken from the workspace
root. -/
def PathScope.resolve (scope : PathScope) (path : String) : String :=
  if scope.atFile then path
  else match scope.root with
    | none => path
    | some root =>
        if scope.platform.isAbsolute path then path else scope.platform.locate root path

namespace LineFields

/-- A number that counts from one, counted from zero. -/
def zeroBased? (text : String) : Option Int :=
  (Text.integer? text).map (· - 1)

/-- The column, zero if there is none or it cannot be located. -/
def column (f : LineFields) : Int :=
  match f.columnText.bind zeroBased? with
  | some c => if c < 0 then 0 else c
  | none => 0

/-- The code, with the name of the linter in place of a missing one. -/
def codeName (f : LineFields) : String :=
  match f.code with
  | some code => if code = "" then linterName else code
  | none => linterName

/-- The diagnostic that the fields describe, if its line can be located. -/
def diagnostic? (f : LineFields) (scope : PathScope) : Option Diagnostic :=
  match zeroBased? f.lineText with
  | some line =>
    if line < 0 then none
    else some {
      path := scope.resolve f.path
      line := line
      column := f.column
      message := f.message
      code := f.codeName
      severity := .ofKeyword f.keyword
      source := linterName }
  | none => none

end LineFields

namespace Transcript

/-- The report of a line that is no diagnostic line. -/
def unmatchedEvent (text : String) : Event :=
  ⟨.warning, "failed to parse error", [("line", .text text)]⟩

def foundEvent (d : Diagnostic) : Event :=
  ⟨.debug, "diagnostic parsed",
    [("severity", .text d.severity.name), ("path", .text d.path), ("line", .int d.line),
      ("code", .text d.code)]⟩

/-- What a line says: a diagnostic or nothing, and what is logged about it. -/
def readLine (scope : PathScope) (text : String) : Option Diagnostic × List Event :=
  if Text.isBlankText text then (none, [])
  else match parseLine text with
    | .unmatched text => (none, [unmatchedEvent text])
    | .matched fields =>
      match fields.diagnostic? scope with
      | none => (none, [])
      | some d => (some d, [foundEvent d])

/-- The diagnostics of a transcript, and what is logged while it is read. -/
def read (scope : PathScope) (transcript : String) : DiagnosticSet × List Event :=
  let lines := (Text.splitLines transcript).map (readLine scope)
  (.ofList (lines.filterMap (·.1)), lines.flatMap (·.2))

end Transcript

end HdlLint
