import HdlLint.Fault.Crash
import HdlLint.Text.LowerCase
import HdlLint.Value.Json
import HdlLint.Value.Merge

/-!
# Settings from variables

A variable names a setting by its section and its own name, with two underscores before
and between, in any case. A variable that names a whole section holds JSON; those that
name settings in it win over it. `sectionsOfVariables` gives the sections as a map, or a
crash if a text that has to be JSON is none, or nests deeper than there is room for.
-/

namespace HdlLint.Environment

/-- What the names of all variables begin with. -/
def start : String := "verilint__"

/-- What stands between the parts of a name. -/
def separator : List Char := ['_', '_']

/-- The sections and the names of their settings, in order. -/
def sections : List (String × List String) :=
  [("logging", ["level", "outputs"]),
    ("linting", ["path", "arguments", "run_at_file_location", "use_wsl", "timeout_sec"])]

/-- The setting whose variable holds JSON. -/
def structuredSetting : String × String := ("logging", "outputs")

/-- The variables by their names in lower case; of two with one name the later one
counts. -/
def normalize (environment : List (String × String)) : List (String × String) :=
  environment.foldl
    (fun acc (name, value) =>
      let name := Text.lower name
      if (acc.lookup name).isSome then
        acc.map fun v => if v.1 = name then (name, value) else v
      else acc ++ [(name, value)]) []

/-- Cuts a name at each separator. -/
def nameParts : List Char → List (List Char)
  | [] => [[]]
  | '_' :: '_' :: r => [] :: nameParts r
  | c :: r =>
    match nameParts r with
    | [] => [[c]]
    | w :: ws => (c :: w) :: ws

/-- Puts a value at the end of a path of keys. Maps on the way are made where nothing is
there; something else on the way stops the value from being put anywhere. -/
def put (keys : List String) (last : String) (value : Value) :
    List (Value × Value) → List (Value × Value) :=
  match keys with
  | [] => Value.assign (.text last) value
  | k :: ks => fun entries =>
    match Value.lookup? (.text k) entries with
    | none => Value.assign (.text k) (.map (put ks last value [])) entries
    | some (.map inner) => Value.assign (.text k) (.map (put ks last value inner)) entries
    | some _ => entries

/-- The crash of a section whose variables cannot be read. -/
def unreadable (group : String) : Crash :=
  .of .setting
    ("error parsing value for field \"" ++ group ++
      "\" from source \"EnvSettingsSource\"")

/-- The crash of reading JSON for a section. One of too much nesting is known by how its
text begins. -/
def crashOf (group : String) : Value.Json.ReadFault → Crash
  | .malformed => unreadable group
  | .tooDeep => .of .recursion "maximum recursion depth exceeded"

/-- The JSON that a variable of a section holds. -/
def readVariable (room : String → Nat) (group name text : String) : Except Crash Value :=
  (Value.readJson (room name) text).mapError (crashOf group)

/-- The value that a variable gives to a setting. -/
def settingValue (room : String → Nat) (group : String) (keys : List String)
    (last name text : String) : Except Crash Value :=
  if keys.isEmpty && (group, last) = structuredSetting && text ≠ "" then
    readVariable room group name text
  else .ok (.text text)

/-- The settings of a section that variables name. -/
def settingsOf (room : String → Nat) (group : String)
    (environment : List (String × String)) : Except Crash (List (Value × Value)) :=
  let opening := (start ++ group).toList ++ separator
  environment.foldlM
    (fun acc (name, text) =>
      if opening.isPrefixOf name.toList then do
        let parts := (nameParts (name.toList.drop opening.length)).map String.ofList
        let keys := parts.dropLast
        let last := parts.getLastD ""
        pure (put keys last (← settingValue room group keys last name text) acc)
      else .ok acc) []

/-- The entries of a section with the names of its settings spelled as they are known. -/
def respell (names : List String) (entries : List (Value × Value)) : Value :=
  Value.ofEntries (entries.map fun (k, v) =>
    match k with
    | .text s =>
      let s' := Text.lower s
      ((names.find? fun n => n = s').elim k .text, v)
    | _ => (k, v))

/-- The value of a section, if variables give it one. -/
def sectionValue? (room : String → Nat) (group : String) (names : List String)
    (environment : List (String × String)) : Except Crash (Option Value) :=
  match environment.lookup (start ++ group) with
  | none => do
    let settings ← settingsOf room group environment
    pure (if settings.isEmpty then none else some (respell names settings))
  | some text => do
    match ← readVariable room group (start ++ group) text with
    | .null => pure none
    | .map entries =>
      let settings ← settingsOf room group environment
      match (Value.map entries).merge (.map settings) with
      | .map merged => pure (some (respell names merged))
      | v => pure (some v)
    | v => pure (some v)

/-- The sections that variables give, as a map. -/
def sectionsOfVariables (room : String → Nat) (environment : List (String × String)) :
    Except Crash Value := do
  let environment := normalize environment
  let entries ← sections.filterMapM fun (group, names) => do
    pure ((← sectionValue? room group names environment).map fun v =>
      (Value.text group, v))
  pure (.map entries)

end HdlLint.Environment
