import HdlLint.Number.Decimal
import HdlLint.Path.Posix
import HdlLint.Settings.Checked
import HdlLint.Settings.Model
import HdlLint.Text.Utf8

/-!
# Checking settings

Settings come as values of any kind and are taken as generously as their meaning allows:
truth values may be given as words or numbers, numbers as texts, texts as bytes.
`LintSettings.check` and its kin check maps of values; keys that name no setting are
passed over.
-/

namespace HdlLint

/-- The home folders of users by their names. The user's own one has no name. -/
abbrev Homes := String → Option String

/-- Homes of which only the user's own one is known. -/
def Homes.own (folder : String) : Homes :=
  fun name => if name = "" then some folder else none

namespace Check

def text (v : Value) : Checked String :=
  match v with
  | .text s => .ok s
  | .bytes b =>
    match Text.Utf8.decode b with
    | .ok s => .ok s
    | .error _ => .issue .notUnicode v
  | _ => .issue .notText v

def trueWords : List String := ["1", "on", "t", "true", "y", "yes"]

def falseWords : List String := ["0", "off", "f", "false", "n", "no"]

/-- The truth value of a word in any case. -/
def boolOfWord? (s : String) : Option Bool :=
  let word := Text.toLowerAscii s
  if trueWords.contains word then some true
  else if falseWords.contains word then some false
  else none

/-- Whether an integer fits into 64 bits. -/
def fitsWord (i : Int) : Bool :=
  -(0x8000000000000000 : Int) ≤ i && i < 0x8000000000000000

/-- The truth value of an integer. -/
def boolOfInt (i : Int) (v : Value) : Checked Bool :=
  if i = 0 then .ok false
  else if i = 1 then .ok true
  else .issue (if fitsWord i then .unreadableBoolean else .notBoolean) v

/-- The truth value of a word, where one is needed. -/
def boolOfText (s : String) (v : Value) : Checked Bool :=
  match boolOfWord? s with
  | some b => .ok b
  | none => .issue .unreadableBoolean v

def bool (v : Value) : Checked Bool :=
  match v with
  | .bool b => .ok b
  | .text s => boolOfText s v
  | .bytes b =>
    match Text.Utf8.decode b with
    | .ok s => boolOfText s v
    | .error _ => .issue .unreadableBoolean v
  | .int i => boolOfInt i v
  | .real x =>
    match x.toInt? with
    | some i => boolOfInt i v
    | none => .issue .notBoolean v
  | _ => .issue .notBoolean v

/-- A text without its underscores, if each stands alone and none at an end. -/
def dropUnderscores? (s : List Char) : Option (List Char) :=
  if s.head? = some '_' || s.getLast? = some '_' || (s.zip s.tail).contains ('_', '_') then
    none
  else some (s.filter (· ≠ '_'))

/-- A number written as a text, with white space around it and single underscores
inside. -/
def numberOfText? (s : String) : Option Binary64 :=
  (dropUnderscores? (Text.stripWhile Text.isSpace s.toList)).bind
    (Binary64.ofText? Binary64.asciiDigit?)

/-- A number written as a text, where one is needed. -/
def numberOfText (s : String) (v : Value) : Checked Binary64 :=
  match numberOfText? s with
  | some x => .ok x
  | none => .issue .unreadableNumber v

/-- A number. An integer too large for the format is none. -/
def number (v : Value) : Checked Binary64 :=
  match v with
  | .real x => .ok x
  | .bool b => .ok (.ofInt (if b then 1 else 0))
  | .int i =>
    let x := Binary64.ofInt i
    if x.isFinite then .ok x else .issue .notNumber v
  | .text s => numberOfText s v
  | .bytes b =>
    match Text.Utf8.decode b with
    | .ok s => numberOfText s v
    | .error _ => .issue .unreadableNumber v
  | _ => .issue .notNumber v

def optional {α : Type} (check : Value → Checked α) (v : Value) : Checked (Option α) :=
  match v with
  | .null => .ok none
  | v => (check v).map some

/-- One of some names, written exactly so. -/
def among {α : Type} (options : List (String × α)) (v : Value) : Checked α :=
  match v with
  | .text s =>
    match options.lookup s with
    | some a => .ok a
    | none => .issue (.notAmong (options.map (·.1))) v
  | _ => .issue (.notAmong (options.map (·.1))) v

/-- A setting of a map, or its default if the map lacks it. -/
def field {α : Type} (v : Value) (name : String) (default : α)
    (check : Value → Checked α) : Checked α :=
  match v.field? name with
  | some x => (check x).inside (.name name)
  | none => .ok default

/-- A list whose members are checked on their own. -/
def list {α : Type} (check : Value → Checked α) (v : Value) : Checked (List α) :=
  let members := fun (xs : List Value) =>
    Checked.all (xs.mapIdx fun i x => (check x).inside (.index i))
  match v.unfold with
  | .list xs => members xs
  | .tuple xs => members xs
  | .set xs => members xs
  | _ => .issue .notList v

/-- A time limit, which has to be positive. -/
def timeout (v : Value) : Checked (Option Binary64) :=
  (optional number v).bind fun t =>
    match t with
    | some x =>
      if x.isNonpositive then
        .issue (.refused ("Timeout must be positive, got " ++ x.text)) v
      else .ok t
    | none => .ok t

/-- Extra arguments, without the blanks around them. -/
def arguments (v : Value) : Checked String :=
  (text v).map Text.trim

/-- The crash of a home folder that is not known. -/
def unknownHome : Crash :=
  .of .runtime "Could not determine home directory."

/-- The folder that a tilde and the name of a user stand for. One that begins with a tilde
itself counts as unknown. -/
def homeOf (homes : Homes) (user : List Char) : Except Crash (List Char) :=
  if user.contains '\x00' then .error (.of .value "embedded null byte")
  else
    match homes (String.ofList user) with
    | none => .error unknownHome
    | some home =>
      if home.toList.head? = some '~' then .error unknownHome
      else
        let home := Text.dropEndWhile (· = '/') home.toList
        .ok (if home.isEmpty then ['/'] else home)

/-- A path with a home folder in place of a tilde at its beginning and the name behind
it. -/
def expandHome (homes : Homes) (path : List Char) : Except Crash (List Char) :=
  match (Path.Posix.anchor path).isEmpty, Path.Posix.parts path with
  | true, ('~' :: user) :: rest =>
    (homeOf homes user).map fun home =>
      Path.Posix.tidy (Path.Posix.join home (Path.joinWith '/' rest))
  | _, _ => .ok (Path.Posix.tidy path)

/-- Where log lines go: a stream, or a file by its absolute path. -/
def destination (homes : Homes) (v : Value) : Checked LogDestination :=
  (text v).bind fun s =>
    if s = "stderr" then .ok .errorStream
    else if s = "stdout" then .ok .outputStream
    else match expandHome homes s.toList with
      | .error c => if c.kind = .value then .issue (.refused c.text) v else .crashed c
      | .ok path =>
        if Path.Posix.isAbsolute path then .ok (.file (String.ofList path))
        else .issue (.refused ("File destination must be absolute path: " ++ s)) v

def level (v : Value) : Checked LogLevel :=
  among (LogLevel.all.map fun l => (l.settingName, l)) v

def format (v : Value) : Checked LogFormat :=
  among ([LogFormat.json, LogFormat.console].map fun f => (f.name, f)) v

/-- A map, checked further; anything else is no model of the name. -/
def model {α : Type} (name : String) (check : Value → Checked α) (v : Value) :
    Checked α :=
  match v.unfold with
  | .map _ => check v
  | _ => .issue (.notModel name) v

end Check

/-- Checks one output of the log. -/
def LogOutput.check (homes : Homes) : Value → Checked LogOutput :=
  Check.model "LogOutputConfig" fun v =>
    LogOutput.mk <$> Check.field v "format" .console Check.format
      <*> Check.field v "destination" .errorStream (Check.destination homes)
      <*> Check.field v "level" none (Check.optional Check.level)

/-- Checks the settings of the log. -/
def LogSettings.check (homes : Homes) : Value → Checked LogSettings :=
  Check.model "LoggingConfig" fun v =>
    LogSettings.mk <$> Check.field v "level" .info Check.level
      <*> Check.field v "outputs" [{}] (Check.list (LogOutput.check homes))

/-- Checks how the linter is to be run. -/
def LintSettings.check : Value → Checked LintSettings :=
  Check.model "LintingConfig" fun v =>
    LintSettings.mk <$> Check.field v "path" "" Check.text
      <*> Check.field v "arguments" "" Check.arguments
      <*> Check.field v "run_at_file_location" false Check.bool
      <*> Check.field v "use_wsl" false Check.bool
      <*> Check.field v "timeout_sec" none Check.timeout

/-- Checks all settings. -/
def Settings.check (homes : Homes) : Value → Checked Settings :=
  Check.model "VerilintConfig" fun v =>
    Settings.mk <$> Check.field v "logging" {} (LogSettings.check homes)
      <*> Check.field v "linting" {} LintSettings.check

end HdlLint
