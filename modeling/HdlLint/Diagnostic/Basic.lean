/-!
# Diagnostics

A diagnostic is one located issue. Lines and columns count from zero; the range of a
diagnostic runs from its position to the end of the same line.
-/

namespace HdlLint

/-- How serious an issue is. -/
inductive Severity where
  | error
  | warning
  | information
  deriving Repr, DecidableEq

namespace Severity

def name : Severity → String
  | error => "error"
  | warning => "warning"
  | information => "information"

def ofName? : String → Option Severity
  | "error" => some error
  | "warning" => some warning
  | "information" => some information
  | _ => none

/-- The severity that the first word of a diagnostic line stands for. -/
def ofKeyword (keyword : String) : Severity :=
  if "Error".toList.isPrefixOf keyword.toList then error
  else if "Warning".toList.isPrefixOf keyword.toList then warning
  else information

end Severity

/-- The source of every diagnostic the linter reports, and the code of one that has no
code of its own. -/
def linterName : String := "verilator"

/-- The column past every other one. -/
def endOfLine : Int := 9223372036854775807

/-- A located issue. -/
structure Diagnostic where
  path : String
  line : Int
  column : Int
  message : String
  code : String
  severity : Severity
  source : String
  deriving Repr, DecidableEq

namespace Diagnostic

/-- The line on which the range ends. -/
def endLine (d : Diagnostic) : Int := d.line

/-- The column at which the range ends. -/
def endColumn (_ : Diagnostic) : Int := endOfLine

end Diagnostic

end HdlLint
