import HdlLint.CommandLine.Run
import Std.Time.Format
import Std.Time.Zoned

/-!
# The program

The program reads what it needs of the world, lets `CommandLine.run` decide, and does what
the outcome says. It launches nothing: whoever calls it runs the linter and passes on,
through standard input, what the linter wrote on its error stream.
-/

namespace HdlLint.CommandLine

/-- The place of a path seen from a folder. -/
def placeFrom (folder path : String) : List String :=
  (Path.Posix.parts (Platform.host.locate folder path).toList).map String.ofList

/-- The names of the variables that can hold settings. -/
def variableNames : List String :=
  Environment.sections.flatMap fun (group, names) =>
    let opening := (Environment.start ++ group).toUpper
    opening :: names.map fun name => opening ++ "__" ++ name.toUpper

/-- The paths that arguments may name: each argument, and what stands behind an equals
sign in it. -/
def pathsOfArguments (args : List String) : List String :=
  args.flatMap fun arg => arg :: (splitValue arg).2.toList

/-- The paths that a command may have to read, if the user's file is at a path: those that
its arguments may name, and the file of the workspace in each of them. -/
def pathsToRead (userFile : String) (args : List String) : List String :=
  userFile :: ("." :: pathsOfArguments args).flatMap fun path =>
    [path, path ++ "/" ++ Settings.workspaceFile]

/-- The files of a tree that another one does not hold in the same form, with the bytes
that have been added. -/
def addedBytes (old new : FileTree) : List (List String × List UInt8) :=
  new.entries.filterMap fun (place, e) =>
    match e, old.entry? place with
    | .file bytes, some (.file before) =>
      if bytes.length = before.length then none
      else some (place, bytes.drop before.length)
    | .file bytes, _ => some (place, bytes)
    | .folder, _ => none

/-- The tree with what is found at a path. -/
def readPath (folder : String) (tree : FileTree) (path : String) : IO FileTree := do
  let place := placeFrom folder path
  let location := (← IO.currentDir) / FileTree.pathOf place
  if ← location.isDir then pure (tree.withFolders place)
  else if ← location.pathExists then
    let bytes ← IO.FS.readBinFile location
    pure ((tree.withFolders place.dropLast).insert place (.file bytes.toList))
  else pure tree

/-- Adds bytes to a file on disk, whose folder is made if it is missing. -/
def writeBytes (place : List String) (bytes : List UInt8) : IO Unit := do
  IO.FS.createDirAll (FileTree.pathOf place.dropLast)
  let handle ← IO.FS.Handle.mk (FileTree.pathOf place) .append
  handle.write ⟨bytes.toArray⟩

def readVariables : IO (List (String × String)) :=
  variableNames.filterMapM fun name => do
    pure ((← IO.getEnv name).map fun value => (name, value))

/-- The home folders of users: the user's own one, and those that a table of accounts
gives, with an account on a line. -/
def homesOf (own accounts : String) : Homes := fun name =>
  if name.isEmpty then some own
  else (accounts.splitOn "\n").findSome? fun line =>
    match line.splitOn ":" with
    | [user, _, _, _, _, home, _] => if user = name then some home else none
    | _ => none

/-- The table of accounts, if there is one. -/
def readAccounts : IO String := do
  let path := (← IO.currentDir) / "/etc/passwd"
  if ← path.pathExists then IO.FS.readFile path else pure ""

/-- The situation in which a command is started with arguments. -/
def readSituation (args : List String) : IO Situation := do
  let folder := (← IO.currentDir).toString
  let home := (← IO.getEnv "HOME").getD "/"
  let userFile := home ++ "/.config/verilint/config.yaml"
  let tree ← (pathsToRead userFile args).foldlM (readPath folder) (⟨[]⟩ : FileTree)
  let began ← IO.monoMsNow
  let transcript ← (← IO.getStdin).readToEnd
  let ended ← IO.monoMsNow
  let now ← Std.Time.PlainDateTime.now
  let width := ((← IO.getEnv "COLUMNS").bind String.toNat?).getD 80
  let homes := homesOf home (← readAccounts)
  pure {
    surroundings := {
      tree := tree.withFolders (placeFrom "/" folder), folder := placeFrom "/" folder,
      userFile := userFile
      homes := homes, documentRoom := fun _ => 480, variableRoom := fun _ => 960 }
    environment := ← readVariables
    platform := .host
    translator :=
      .helper fun _ => .doesNotStart (.system ⟨none, some "no such helper", none⟩)
    child := .ends [] transcript.toUTF8.toList (some 0)
    clock := [began, ended].map fun t => Binary64.ofRatio false t 1000
    time := now.format "uuuu-MM-dd HH:mm:ss"
    screen := ⟨width, width⟩ }

def perform (before : FileTree) (o : Outcome) : IO UInt32 := do
  for (place, bytes) in addedBytes before o.outlets.tree do
    writeBytes place bytes
  (← IO.getStdout).putStr o.outlets.output
  (← IO.getStderr).putStr o.outlets.errors
  match o.ending with
  | .crash c => (← IO.getStderr).putStrLn c.literal
  | .code _ => pure ()
  pure o.ending.exitCode.toUInt32

end HdlLint.CommandLine

/-- Runs the command that the arguments name. -/
def main (args : List String) : IO UInt32 := do
  let situation ← HdlLint.CommandLine.readSituation args
  HdlLint.CommandLine.perform situation.surroundings.tree
    (HdlLint.CommandLine.run situation args)
