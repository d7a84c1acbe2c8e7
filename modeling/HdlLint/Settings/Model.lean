import HdlLint.Log.Event
import HdlLint.Number.Binary64

/-!
# Settings

The settings of the program: how the linter is to be run, and where log events go.
-/

namespace HdlLint

/-- How the linter is to be run. -/
structure LintSettings where
  /-- The folder that holds the linter; empty if it is to be found by name. -/
  path : String := ""
  /-- Extra arguments, not yet split into words. -/
  arguments : String := ""
  /-- Run in the folder of the file instead of the workspace root. -/
  runAtFile : Bool := false
  /-- On Windows, run inside the Linux subsystem. -/
  useWsl : Bool := false
  /-- The seconds after which a run is given up. -/
  timeout : Option Binary64 := none
  deriving Repr, DecidableEq

/-- How a log line is written. -/
inductive LogFormat where
  | json
  | console
  deriving Repr, DecidableEq

/-- The name of a format in settings. -/
def LogFormat.name : LogFormat → String
  | json => "json"
  | console => "console"

/-- Where log lines go. -/
inductive LogDestination where
  | errorStream
  | outputStream
  | file (path : String)
  deriving Repr, DecidableEq

/-- The name of a destination in settings. -/
def LogDestination.name : LogDestination → String
  | errorStream => "stderr"
  | outputStream => "stdout"
  | file path => path

/-- The path of a destination that is a file. -/
def LogDestination.file? : LogDestination → Option String
  | file path => some path
  | _ => none

/-- One output of the log. Without a level of its own it has that of the log. -/
structure LogOutput where
  format : LogFormat := .console
  destination : LogDestination := .errorStream
  level : Option LogLevel := none
  deriving Repr, DecidableEq

/-- The level of the log and its outputs. -/
structure LogSettings where
  level : LogLevel := .info
  outputs : List LogOutput := [{}]
  deriving Repr, DecidableEq

/-- All settings. -/
structure Settings where
  logging : LogSettings := {}
  linting : LintSettings := {}
  deriving Repr, DecidableEq

/-- The settings as a map of values. -/
def LintSettings.toValue (s : LintSettings) : Value :=
  .map [(.text "path", .text s.path), (.text "arguments", .text s.arguments),
    (.text "run_at_file_location", .bool s.runAtFile), (.text "use_wsl", .bool s.useWsl),
    (.text "timeout_sec", .ofReal? s.timeout)]

/-- An output as a map of values. -/
def LogOutput.toValue (o : LogOutput) : Value :=
  .map [(.text "format", .text o.format.name),
    (.text "destination", .text o.destination.name),
    (.text "level", .ofText? (o.level.map LogLevel.settingName))]

/-- The settings of the log as a map of values. -/
def LogSettings.toValue (s : LogSettings) : Value :=
  .map [(.text "level", .text s.level.settingName),
    (.text "outputs", .list (s.outputs.map LogOutput.toValue))]

/-- All settings as a map of values. -/
def Settings.toValue (s : Settings) : Value :=
  .map [(.text "logging", s.logging.toValue), (.text "linting", s.linting.toValue)]

end HdlLint
