import HdlLint.Document
import HdlLint.Invocation.Basic
import HdlLint.Invocation.Strategy
import HdlLint.Invocation.Words
import HdlLint.Settings.Model

/-!
# Building invocations

`Invocation.build` makes the invocation for a document. The path of the document is
written for the linter first, then its folder; the extra arguments are split after that,
and the first of these that fails ends the build.
-/

namespace HdlLint

namespace Invocation

/-- The flag for sources in the extended language. -/
def systemFlag : String := "-sv"

/-- The flag that stops the linter after its checks. -/
def lintOnlyFlag : String := "--lint-only"

/-- What stands before the folder of included files. -/
def includeFlag : String := "-I"

/-- The words of an invocation. Empty ones are left out. -/
def arguments (settings : LintSettings) (document : Document) (strategy : PathStrategy)
    (extra : List String) (target includeFolder : String) : List String :=
  (strategy.wrapper ++
    [strategy.binaryPath settings.path,
      if document.isSystem then systemFlag else "", lintOnlyFlag,
      includeFlag ++ includeFolder] ++ extra ++ [target]).filter (· ≠ "")

/-- The folder in which the linter runs. -/
def runFolder (settings : LintSettings) (platform : Platform) (root : Option String)
    (document : Document) : Option String :=
  if settings.runAtFile then some (platform.folder document.path) else root

/-- The extra arguments of the settings, in words. -/
def extraWords (settings : LintSettings) (platform : Platform) :
    Except Stop (List String) :=
  match splitWords (!platform.isWindows) settings.arguments with
  | .ok ws => .ok ws
  | .error f => .error (.fault (.invalidArguments settings.arguments f.message))

def event (i : Invocation) : Event :=
  ⟨.info, "verilator command",
    [("category", .text "command"), ("command", .text i.command),
      ("cwd", .ofText? i.folder)]⟩

/-- The invocation for paths that have been written for the linter. -/
def assemble (settings : LintSettings) (platform : Platform) (strategy : PathStrategy)
    (root : Option String) (document : Document) (target includeFolder : String) :
    Except Stop Invocation :=
  (extraWords settings platform).map fun extra => {
    argv := arguments settings document strategy extra target includeFolder
    folder := runFolder settings platform root document
    filePath := document.path
    targetPath := target
    includeFolder := includeFolder }

/-- Builds the invocation for a document, with what it took to do so. -/
def build (settings : LintSettings) (platform : Platform) (translator : Translator)
    (root : Option String) (document : Document) : Except Stop Invocation × PathTrace :=
  let strategy := PathStrategy.select platform settings.useWsl translator
  match strategy.adapt document.path with
  | (.error stop, trace) => (.error stop, trace)
  | (.ok target, trace) =>
    match strategy.adapt (platform.folder document.path) with
    | (.error stop, trace') => (.error stop, trace.append trace')
    | (.ok includeFolder, trace') =>
      let trace := trace.append trace'
      match assemble settings platform strategy root document target includeFolder with
      | .error stop => (.error stop, trace)
      | .ok i => (.ok i, trace.append ⟨[], [i.event]⟩)

end Invocation

end HdlLint
