import HdlLint.Fault.Crash
import HdlLint.Path.Components

/-!
# File trees

A file tree says which files and folders there are. A place in it is a list of names from
the root on; a path is walked component by component, and every component but the last has
to be a folder.
-/

namespace HdlLint

/-- What a place holds. -/
inductive FileEntry where
  | file (bytes : List UInt8)
  | folder
  deriving Repr, DecidableEq

/-- Files and folders by their places. The root is always there. -/
structure FileTree where
  entries : List (List String × FileEntry)
  deriving Repr

/-- Where a path leads. -/
inductive FilePlace where
  /-- To something that is there. -/
  | found (place : List String) (entry : FileEntry)
  /-- To a place in a folder that holds nothing. -/
  | absent (place : List String)
  /-- Through a folder that is not there. -/
  | missing
  /-- Through a file. -/
  | blocked
  deriving Repr

namespace FileTree

/-- What a place holds, if anything. -/
def entry? (t : FileTree) (place : List String) : Option FileEntry :=
  if place.isEmpty then some .folder else t.entries.lookup place

/-- The tree with an entry at a place. -/
def insert (t : FileTree) (place : List String) (e : FileEntry) : FileTree :=
  ⟨t.entries.filter (fun x => x.1 ≠ place) ++ [(place, e)]⟩

/-- The tree in which a place and all places above it are folders, unless they are
something already. -/
def withFolders (t : FileTree) (place : List String) : FileTree :=
  (List.range place.length).foldl
    (fun t n =>
      let p := place.take (n + 1)
      if (t.entry? p).isSome then t else t.insert p .folder) t

def walk (t : FileTree) (place : List String) : List Path.Component → FilePlace
  | [] =>
    match t.entry? place with
    | some e => .found place e
    | none => .missing
  | w :: ws =>
    match t.entry? place with
    | some .folder =>
      if Path.isIdle w then t.walk place ws
      else if w == Path.parent then t.walk place.dropLast ws
      else
        let next := place ++ [String.ofList w]
        match t.entry? next with
        | some _ => t.walk next ws
        | none => if ws.isEmpty then .absent next else .missing
    | some (.file _) => .blocked
    | none => .missing

/-- Where a path leads from a folder. The empty path leads nowhere. -/
def find (t : FileTree) (folder : List String) (path : String) : FilePlace :=
  let chars := path.toList
  if chars.isEmpty then .missing
  else t.walk (if chars.head? = some '/' then [] else folder)
    (Path.splitOn (· = '/') chars)

/-- The bytes of the file to which a path leads. -/
def file? (t : FileTree) (folder : List String) (path : String) : Option (List UInt8) :=
  match t.find folder path with
  | .found _ (.file bytes) => some bytes
  | _ => none

/-- Whether a path leads to a folder. -/
def isFolder (t : FileTree) (folder : List String) (path : String) : Bool :=
  match t.find folder path with
  | .found _ .folder => true
  | _ => false

def pathOf (place : List String) : String :=
  "/" ++ "/".intercalate place

/-- Makes the folder to which components lead, which is in one that is there. -/
def makeFolder (t : FileTree) (path : List Path.Component) : Except Crash FileTree :=
  match t.walk [] path with
  | .found _ .folder => .ok t
  | .found _ (.file _) => .error (.of .fileExists "File exists")
  | .absent place => .ok (t.insert place .folder)
  | .missing => .ok t
  | .blocked => .error (.of .notFolder "Not a directory")

/-- Makes the folder to which the first components of a path lead, and those above it as
far as they are missing. -/
def makeFolders (t : FileTree) (path : List Path.Component) : Nat → Except Crash FileTree
  | 0 => .ok t
  | n + 1 =>
    match t.walk [] (path.take (n + 1)) with
    | .missing => do (← t.makeFolders path n).makeFolder (path.take (n + 1))
    | _ => t.makeFolder (path.take (n + 1))

/-- Opens a file to add to it: it is made if it is not there. -/
def openFile (t : FileTree) (place : List String) : Except Crash FileTree :=
  match t.entry? place with
  | some .folder => .error (.of .isFolder "Is a directory")
  | some (.file _) => .ok t
  | none => .ok (t.insert place (.file []))

/-- Adds bytes to the end of a file that is there. -/
def append (t : FileTree) (place : List String) (bytes : List UInt8) : FileTree :=
  ⟨t.entries.map fun x =>
    match x with
    | (p, .file old) => if p = place then (p, .file (old ++ bytes)) else x
    | _ => x⟩

end FileTree

end HdlLint
