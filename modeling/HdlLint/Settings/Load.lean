import HdlLint.Fault.Basic
import HdlLint.Files
import HdlLint.Settings.Check
import HdlLint.Settings.Environment
import HdlLint.Text.Lines
import HdlLint.Text.Utf8Blocks
import HdlLint.Yaml.Document

/-!
# Loading settings

Settings come from several sources. From the lowest to the highest they are: the defaults,
the file of the user, the file of the workspace, a file asked for, variables, and values
given directly. Sources are merged section by section and setting by setting; then the
result is checked as a whole. Variables and values given directly may name sections in any
case.
-/

namespace HdlLint

/-- Why settings could not be loaded. -/
inductive LoadStop where
  | fault (f : ConfigFault)
  | crash (c : Crash)
  deriving Repr

namespace Settings

/-- Where files and homes are, from where relative paths are taken, and how much room
there is for collections that stand in one another. -/
structure Surroundings where
  tree : FileTree
  folder : List String
  /-- The path of the user's file. -/
  userFile : String
  homes : Homes
  /-- The most collections that can stand in one another in the document of a file, by the
  path of the file. -/
  documentRoom : String → Nat
  /-- The most that can in the JSON of a variable, by the name of the variable in lower
  case. -/
  variableRoom : String → Nat

/-- The folder in a workspace that holds its file, and the name of the file. -/
def workspaceFile : String := ".verilint/config.yaml"

/-- The path of the file of a workspace. -/
def workspacePath (root : String) : String :=
  String.ofList (Path.Posix.tidy (Path.Posix.join root.toList workspaceFile.toList))

/-- What stands for the wording of a fault in a document. -/
def malformedReason : String := "<yaml>"

/-- The map that a document holds. One that holds nothing counts as an empty map. -/
def mapOfDocument (room : Nat) (path text : String) : Except LoadStop Value :=
  match Yaml.readDocument room text with
  | .error .malformed => .error (.fault (.parse path malformedReason))
  | .error (.crash c) => .error (.crash c)
  | .ok v =>
    match v.unfold with
    | .map es => .ok (.map es)
    | v =>
      if v.isTruthy then .error (.fault (.parse path "top level must be a mapping"))
      else .ok (.map [])

/-- The map that a file holds. A file that is not there counts as an empty map. -/
def loadFile (s : Surroundings) (path : String) : Except LoadStop Value :=
  match s.tree.find s.folder path with
  | .found _ (.file bytes) =>
    match Text.Utf8.decodeBlocks bytes with
    | .error f => .error (.crash (.of .unicode f.message))
    | .ok text =>
        mapOfDocument (s.documentRoom path) path
          (String.ofList (Text.unifyLineEnds text.toList))
  | .found _ .folder => .error (.crash (.of .isFolder "Is a directory"))
  | _ => .ok (.map [])

def layer (base override : Value) : Except LoadStop Value :=
  match base.merge? override with
  | some v => .ok v
  | none => .error (.crash (.of .recursion "maximum recursion depth exceeded"))

/-- The map that the files hold together. A file asked for has to be there. -/
def loadFiles (s : Surroundings) (root : String) (extra : Option String) :
    Except LoadStop Value := do
  let user ← loadFile s s.userFile
  let workspace ← loadFile s (workspacePath root)
  let files ← layer user workspace
  match extra with
  | none => pure files
  | some path =>
    let path := String.ofList (Path.Posix.tidy path.toList)
    if (s.tree.file? s.folder path).isNone then throw (.fault (.fileNotFound path))
    layer files (← loadFile s path)

/-- The section that a name means, in any case. -/
def sectionNamed? (name : Value) : Option String :=
  match name with
  | .text s => (Environment.sections.map (·.1)).find? fun n => n = Text.lower s
  | _ => none

/-- Values given directly with the sections under their own names. Of several entries for
one section the first one counts. -/
def respellSections (given : Value) : Value :=
  match given with
  | .map entries =>
    let named := Environment.sections.filterMap fun (n, _) =>
      (entries.find? fun e => sectionNamed? e.1 = some n).map fun e => (Value.text n, e.2)
    .map (named ++ entries.filter fun e => (sectionNamed? e.1).isNone)
  | v => v

/-- Issues with entries that name no section. -/
def unexpectedSections (v : Value) : List Issue :=
  match v with
  | .map entries => entries.filterMap fun (k, x) =>
    match k with
    | .text s =>
        if (Environment.sections.lookup s).isSome then none
        else some ⟨[.name s], .unexpected, x⟩
    | _ => none
  | _ => []

/-- Checks the merged sources: every section, and that there are no others. -/
def checkSources (homes : Homes) (v : Value) : Checked Settings :=
  match unexpectedSections v with
  | [] => Settings.check homes v
  | issues => (Settings.check homes v).seqLeft (.invalid issues : Checked Unit)

/-- Whether all keys of a map are texts. -/
def hasTextKeys : Value → Bool
  | .map entries => entries.all fun e => match e.1 with
    | .text _ => true
    | _ => false
  | _ => true

/-- An issue as a fault of the settings. A value that cannot be written ends the
loading. -/
def stopOfIssue (i : Issue) : LoadStop :=
  if i.input.hasLongInt then .crash (.of .value (Text.tooLongMessage ""))
  else .fault (.invalidValue (".".intercalate (i.location.map Step.text))
    i.input i.kind.message)

/-- Why settings with some issues are not loaded: the first one counts. -/
def stopOfIssues : List Issue → LoadStop
  | [] => .fault (.invalidValue "" .null "")
  | i :: _ => stopOfIssue i

/-- Loads the settings for a workspace. -/
def load (s : Surroundings) (root : String) (extra : Option String)
    (environment : List (String × String)) (given : Value) :
    Except LoadStop Settings := do
  let files ← loadFiles s root extra
  let sections ← (Environment.sectionsOfVariables s.variableRoom environment).mapError
    .crash
  let sources ← layer files (sections.merge (respellSections given))
  if !hasTextKeys sources then throw (.crash (.of .type "keywords must be strings"))
  match checkSources s.homes sources with
  | .ok settings => pure settings
  | .invalid issues => throw (stopOfIssues issues)
  | .crashed c => throw (.crash c)

end Settings

end HdlLint
