import HdlLint.Value.Literal

/-!
# Faults

A fault is a failure that the program foresees and reports: it has a code, a message,
details, and says whether it is worth trying again. The causes are `LintFault` and
`ConfigFault`; their wording is in `LintFault.fault` and `ConfigFault.fault` only.
-/

namespace HdlLint

/-- The codes of faults: those of the settings begin with 2, those of a lint run with
3. -/
inductive FaultCode where
  | configParse
  | configInvalidValue
  | configFileNotFound
  | lintLaunch
  | lintPathTranslation
  | lintTimeout
  | lintInvalidArguments
  deriving Repr, DecidableEq

namespace FaultCode

def all : List FaultCode :=
  [configParse, configInvalidValue, configFileNotFound, lintLaunch,
    lintPathTranslation, lintTimeout, lintInvalidArguments]

def number : FaultCode → Int
  | configParse => 2001
  | configInvalidValue => 2002
  | configFileNotFound => 2004
  | lintLaunch => 3001
  | lintPathTranslation => 3002
  | lintTimeout => 3003
  | lintInvalidArguments => 3004

def name : FaultCode → String
  | configParse => "CONFIG_PARSE_ERROR"
  | configInvalidValue => "CONFIG_INVALID_VALUE"
  | configFileNotFound => "CONFIG_FILE_NOT_FOUND"
  | lintLaunch => "LINT_LAUNCH_FAILED"
  | lintPathTranslation => "LINT_PATH_TRANSLATION_FAILED"
  | lintTimeout => "LINT_TIMEOUT"
  | lintInvalidArguments => "LINT_INVALID_ARGUMENTS"

def ofNumber? (n : Int) : Option FaultCode :=
  all.find? fun c => c.number = n

end FaultCode

/-- A failure as it is reported. -/
structure Fault where
  code : FaultCode
  message : String
  retryable : Bool
  details : List (String × Value)
  deriving Repr

def Fault.text (f : Fault) : String :=
  "[" ++ toString f.code.number ++ "] " ++ f.code.name ++ ": " ++ f.message

/-- Why a lint run has no output to read. -/
inductive LintFault where
  /-- The linter could not be started. -/
  | launchFailed (command reason : String)
  /-- A path could not be translated for the Linux subsystem. -/
  | pathTranslationFailed (path reason : String)
  /-- The extra arguments cannot be split into words. -/
  | invalidArguments (arguments reason : String)
  /-- The linter did not end in time. -/
  | timeout (command : String) (seconds : Value)
  deriving Repr

/-- The report of a failed lint run. -/
def LintFault.fault : LintFault → Fault
  | launchFailed command reason =>
    ⟨.lintLaunch, "Failed to launch linter: " ++ reason, false,
      [("command", .text command), ("reason", .text reason)]⟩
  | pathTranslationFailed path reason =>
    ⟨.lintPathTranslation, "Failed to translate '" ++ path ++ "' for WSL: " ++ reason,
      false, [("path", .text path), ("reason", .text reason)]⟩
  | invalidArguments arguments reason =>
    ⟨.lintInvalidArguments, "Cannot split linter arguments: " ++ reason, false,
      [("arguments", .text arguments), ("reason", .text reason)]⟩
  | timeout command seconds =>
    ⟨.lintTimeout, "Linter did not finish within " ++ seconds.display ++ "s", true,
      [("command", .text command), ("timeout_sec", seconds)]⟩

/-- Why there are no settings. -/
inductive ConfigFault where
  /-- A settings file cannot be read as a document that holds settings. -/
  | parse (path reason : String)
  /-- A setting has a value that it cannot have. -/
  | invalidValue (field : String) (value : Value) (reason : String)
  /-- A settings file that was asked for does not exist. -/
  | fileNotFound (path : String)
  deriving Repr

/-- The report of settings that could not be loaded. -/
def ConfigFault.fault : ConfigFault → Fault
  | parse path reason =>
    ⟨.configParse, "Failed to parse config at " ++ path ++ ": " ++ reason, false,
      [("path", .text path), ("reason", .text reason)]⟩
  | invalidValue field value reason =>
    ⟨.configInvalidValue, "Invalid value for '" ++ field ++ "': " ++ reason, false,
      [("field", .text field), ("value", .text value.display), ("reason", .text reason)]⟩
  | fileNotFound path =>
    ⟨.configFileNotFound, "Config file not found: " ++ path, false,
      [("path", .text path)]⟩

end HdlLint
