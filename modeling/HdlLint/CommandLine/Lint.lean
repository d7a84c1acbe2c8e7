import HdlLint.CommandLine.Basic
import HdlLint.CommandLine.Options
import HdlLint.CommandLine.Similar
import HdlLint.CommandLine.Usage
import HdlLint.Report.Result
import HdlLint.Session.Run
import HdlLint.Settings.Overlay

/-!
# The lint command

The command lints one file. Its arguments are checked first, in the order in which they
were given; then settings are loaded, those given on the command line are laid over them,
the log is set up, the linter is run, and its result is reported. The exit code tells
whether the run failed, errors were found, or neither.
-/

namespace HdlLint.CommandLine

/-- The options of the lint command. -/
inductive LintOption where
  | workspace
  | language
  | path
  | arguments
  | runAtFile
  | useWsl
  | config
  | json
  | help
  deriving Repr, DecidableEq

def lintForms : List (OptionForm LintOption) :=
  [⟨"--workspace", .workspace, none⟩, ⟨"-w", .workspace, none⟩,
    ⟨"--language", .language, none⟩,
    ⟨"--verilator-path", .path, none⟩, ⟨"--args", .arguments, none⟩,
    ⟨"--run-at-file-location", .runAtFile, some true⟩,
    ⟨"--run-at-workspace", .runAtFile, some false⟩,
    ⟨"--wsl", .useWsl, some true⟩, ⟨"--no-wsl", .useWsl, some false⟩,
    ⟨"--config", .config, none⟩,
    ⟨"--json", .json, some true⟩, ⟨"--help", .help, some true⟩]

/-- What is wrong with an argument. -/
inductive InputFault where
  | misuse (message : String)
  | crash (c : Crash)
  deriving Repr, DecidableEq

/-- A value that an argument cannot have. -/
def invalidValue (hint reason : String) : InputFault :=
  .misuse ("Invalid value for " ++ hint ++ ": " ++ reason)

/-- What a path on the command line has to be. -/
structure PathNeed where
  folder : Bool
  mustExist : Bool

/-- What is wrong with a path, if anything. -/
def pathFault (s : Settings.Surroundings) (hint : String) (need : PathNeed)
    (path : String) : Option InputFault :=
  let wrong := fun (reason : String) =>
    some (invalidValue hint ((if need.folder then "Directory " else "File ") ++
      Text.quoted path ++ reason))
  if path.toList.contains '\x00' then some (.crash (.of .value "embedded null byte"))
  else match s.tree.find s.folder path with
    | .found _ .folder => if need.folder then none else wrong " is a directory."
    | .found _ (.file _) => if need.folder then wrong " is a file." else none
    | _ => if need.mustExist then wrong " does not exist." else none

/-- The languages that can be named. -/
def languages : List String := [plainLanguage, systemLanguage]

/-- What is wrong with the value of an option, if anything. -/
def optionFault (s : Settings.Surroundings) (a : Arguments LintOption)
    (key : LintOption) : Option InputFault :=
  match key, a.text? key with
  | .workspace, some path => pathFault s "'--workspace' / '-w'" ⟨true, true⟩ path
  | .language, some name =>
    if languages.contains name then none
    else some (invalidValue "'--language'"
      (Text.quoted name ++ " is not one of " ++
        ", ".intercalate (languages.map Text.quoted) ++ "."))
  | .config, some path => pathFault s "'--config'" ⟨false, false⟩ path
  | _, _ => none

/-- What is wrong with the operands, if anything. -/
def operandFault (s : Settings.Surroundings) : List String → Option InputFault
  | [] => some (.misuse "Missing argument 'FILE'.")
  | file :: extra =>
    match pathFault s "'FILE'" ⟨false, true⟩ file, extra with
    | some fault, _ => some fault
    | none, [] => none
    | none, [x] => some (.misuse ("Got unexpected extra argument (" ++ x ++ ")"))
    | none, xs =>
        some (.misuse ("Got unexpected extra arguments (" ++ " ".intercalate xs ++ ")"))

/-- The first thing that is wrong with arguments: options come before operands, in the
order of their first use. -/
def inputFault (s : Settings.Surroundings) (a : Arguments LintOption) :
    Option InputFault :=
  match a.keys.findSome? (optionFault s a) with
  | some fault => some fault
  | none => operandFault s a.operands

/-- The place to which a path leads; the folder from which it is taken if it leads
nowhere. -/
def placeOf (s : Settings.Surroundings) (path : String) : List String :=
  match s.tree.find s.folder path with
  | .found place _ => place
  | _ => s.folder

/-- The workspace: the folder named, or the one in which the command was started. -/
def workspaceOf (s : Settings.Surroundings) (a : Arguments LintOption) : String :=
  FileTree.pathOf ((a.text? .workspace).elim s.folder (placeOf s))

/-- The settings given on the command line. -/
def changesOf (a : Arguments LintOption) : LintChanges :=
  ⟨a.text? .path, a.text? .arguments, a.switch? .runAtFile, a.switch? .useWsl⟩

def documentOf (s : Settings.Surroundings) (a : Arguments LintOption) (file : String) :
    Document :=
  ⟨FileTree.pathOf (placeOf s file), (a.text? .language).getD (detectLanguage file)⟩

/-- Whether a crash means that a value cannot be used. -/
def isValueCrash (c : Crash) : Bool :=
  c.kind = .value || c.kind = .setting || c.kind = .unicode

/-- Why a command cannot go on: something to be said, or a crash. -/
inductive Refusal where
  | message (text : String)
  | crash (c : Crash)
  deriving Repr, DecidableEq

def invalidOption (text : String) : Refusal :=
  .message ("Invalid option: " ++ text)

/-- The refusal that a crash while loading settings leads to. -/
def Refusal.ofCrash (c : Crash) : Refusal :=
  if isValueCrash c then invalidOption c.text else .crash c

/-- The refusal that settings which could not be loaded lead to. -/
def Refusal.ofLoad : LoadStop → Refusal
  | .fault f => .message f.fault.text
  | .crash c => .ofCrash c

/-- The settings for the run: those loaded, with those given on the command line laid over
them. -/
def settingsOf (s : Situation) (a : Arguments LintOption) : Except Refusal Settings := do
  let loaded ← (Settings.load s.surroundings (workspaceOf s.surroundings a)
    (a.text? .config) s.environment (.map [])).mapError .ofLoad
  match loaded.linting.overlay (changesOf a) with
  | .ok linting => pure { loaded with linting := linting }
  | .invalid issues =>
      throw (invalidOption ("; ".intercalate (issues.map fun i => i.kind.message)))
  | .crashed c => throw (.ofCrash c)

def consoleLevel (verbose : Bool) : LogLevel :=
  if verbose then .debug else .critical

/-- The log set up for a run. -/
def logForRun (log : Log) (verbose : Bool) (s : LogSettings) : Option Crash × Log :=
  match s.forRun (if verbose then .debug else s.level) (consoleLevel verbose) with
  | some settings => log.configure settings
  | none => (none, log)

/-- The exit code of a run that could not be made. -/
def runFailedCode : Nat := 2

/-- The exit code of a run that found errors. -/
def errorsFoundCode : Nat := 1

/-- The exit code for a result. -/
def resultCode (r : LintResult) : Nat :=
  if r.status = .error then runFailedCode
  else if r.diagnostics.hasErrors then errorsFoundCode
  else 0

/-- What is printed of a result. -/
def announce (s : Situation) (a : Arguments LintOption) (document : Document)
    (r : LintResult) : Except Crash LintResult.Announcement :=
  if a.has .json then
    .ok (.output ((r.toValue ((s.reading 1).sub (s.reading 0))).toJsonLines ++ "\n"))
  else r.inWords s.screen document.path

def withAnnouncement (o : Outlets) : LintResult.Announcement → Outlets
  | .output text => { o with output := o.output ++ text }
  | .errors text => { o with errors := o.errors ++ text }

/-- Runs the linter on a document and reports the result. -/
def runLint (s : Situation) (a : Arguments LintOption) (settings : LintSettings)
    (document : Document) (log : Log) : Outcome :=
  let request : LintRequest :=
    ⟨document, settings, some (workspaceOf s.surroundings a), s.platform, s.translator⟩
  let (how, _, effects) := request.run s.child .empty
  let log := (((log.setRun none).2.events s.time effects.events)).clearRun
  match how with
  | .crashed c => ⟨.crash c, log.outlets, effects.actions⟩
  | .cancelled => ⟨.code Outcome.failureCode, log.outlets, effects.actions⟩
  | .finished r =>
    match announce s a document r with
    | .error c => ⟨.crash c, log.outlets, effects.actions⟩
    | .ok announcement =>
        ⟨.code (resultCode r), withAnnouncement log.outlets announcement, effects.actions⟩

/-- Lints the file of arguments that have been found right. -/
def lintFile (s : Situation) (log : Log) (verbose : Bool) (a : Arguments LintOption)
    (file : String) : Outcome :=
  match settingsOf s a with
  | .error (.message text) =>
      .complaining log.outlets ("Error: " ++ text ++ "\n") Outcome.failureCode
  | .error (.crash c) => ⟨.crash c, log.outlets, []⟩
  | .ok settings =>
    match logForRun log verbose settings.logging with
    | (some c, log) => ⟨.crash c, log.outlets, []⟩
    | (none, log) => runLint s a settings.linting (documentOf s.surroundings a file) log

def lint (s : Situation) (log : Log) (verbose : Bool) (args : List String) : Outcome :=
  let wrong := fun (message : String) =>
    Outcome.complaining log.outlets
      (misuse lintUsage lintCommand message) Outcome.misuseCode
  match readArguments closest lintForms true args with
  | .error fault =>
    if fault.recallsUsage then wrong fault.message
    else .complaining log.outlets ("Error: " ++ fault.message ++ "\n") Outcome.misuseCode
  | .ok a =>
    if a.has .help then .printing log.outlets lintHelp
    else match inputFault s.surroundings a, a.operands with
      | some (.misuse message), _ => wrong message
      | some (.crash c), _ => ⟨.crash c, log.outlets, []⟩
      | none, file :: _ => lintFile s log verbose a file
      | none, [] => wrong ""

end HdlLint.CommandLine
