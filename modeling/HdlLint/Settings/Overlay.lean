import HdlLint.Settings.Check
import HdlLint.Value.Merge

/-!
# Settings for one run

Some settings can be given for one run only. They are laid over the settings that were
loaded, and the result is checked again as a whole.
-/

namespace HdlLint

/-- The settings of a run that were given for it alone. -/
structure LintChanges where
  path : Option String := none
  arguments : Option String := none
  runAtFile : Option Bool := none
  useWsl : Option Bool := none
  deriving Repr, DecidableEq

/-- The changes as a map of values. -/
def LintChanges.toValue (c : LintChanges) : Value :=
  .map ((c.path.map fun s => (Value.text "path", Value.text s)).toList ++
    (c.arguments.map fun s => (Value.text "arguments", Value.text s)).toList ++
    (c.runAtFile.map fun b => (Value.text "run_at_file_location", Value.bool b)).toList ++
    (c.useWsl.map fun b => (Value.text "use_wsl", Value.bool b)).toList)

/-- The settings with changes laid over them. -/
def LintSettings.overlay (s : LintSettings) (c : LintChanges) : Checked LintSettings :=
  LintSettings.check (s.toValue.merge c.toValue)

/-- The log of a run on the command line: the files of its settings, and the error stream
as a console with a level of its own. Settings without files leave the log as it is. -/
def LogSettings.forRun (s : LogSettings) (level consoleLevel : LogLevel) :
    Option LogSettings :=
  match s.outputs.filter fun o => o.destination.file?.isSome with
  | [] => none
  | files => some ⟨level, { level := some consoleLevel } :: files⟩

end HdlLint
