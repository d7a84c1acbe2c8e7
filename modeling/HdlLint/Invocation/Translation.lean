import HdlLint.Child.Basic
import HdlLint.Fault.Basic
import HdlLint.Text.Blank

/-!
# Translating paths for the Linux subsystem

A path of the Windows host has another name inside the Linux subsystem. Usually a helper
program is asked for it; a translation may also be given as a function.
-/

namespace HdlLint

/-- The program that runs others inside the subsystem. -/
def subsystemProgram : String := "wsl"

/-- The program inside the subsystem that translates paths. -/
def subsystemHelper : String := "wslpath"

/-- What the helper does when it is run: it does not start, or it ends with a code and
texts. -/
inductive HelperBehavior where
  | doesNotStart (fault : StartFault)
  | ends (code : Int) (output : String) (errors : Option String)
  deriving Repr, DecidableEq

/-- Why an operation of a lint run stops. -/
inductive Stop where
  | fault (f : LintFault)
  | crash (c : Crash)
  deriving Repr

/-- A way to translate paths. -/
inductive Translator where
  /-- Runs the helper on its words. -/
  | helper (run : List String → HelperBehavior)
  /-- Asks a function. -/
  | function (run : String → Except Stop String)

/-- The characters without line ends: line feeds, each with a carriage return that stands
before it. -/
def dropLineEnds : List Char → List Char
  | [] => []
  | '\r' :: '\n' :: r => dropLineEnds r
  | '\n' :: r => dropLineEnds r
  | c :: r => c :: dropLineEnds r

namespace Translator

/-- The words with which the helper is run. -/
def helperWords (path : String) : List String :=
  [subsystemProgram, subsystemHelper, path]

/-- Why the helper failed: what it wrote, or its code if that is blank. -/
def helperReason (code : Int) (errors : Option String) : String :=
  let reason := Text.trim (errors.getD "")
  if reason = "" then "exit code " ++ toString code else reason

def readHelper (path : String) : HelperBehavior → Except Stop String
  | .doesNotStart (.system refusal) =>
      .error (.fault (.pathTranslationFailed path refusal.message))
  | .doesNotStart (.argument crash) => .error (.crash crash)
  | .doesNotStart (.other crash) => .error (.crash crash)
  | .ends code output errors =>
    if code = 0 then .ok (String.ofList (dropLineEnds output.toList))
    else .error (.fault (.pathTranslationFailed path (helperReason code errors)))

/-- Translates a path. The words of the request are given with the answer. -/
def translate (t : Translator) (path : String) : List String × Except Stop String :=
  match t with
  | helper run => (helperWords path, readHelper path (run (helperWords path)))
  | function run => ([path], run path)

end Translator

end HdlLint
