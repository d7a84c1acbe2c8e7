import HdlLint.Diagnostic.Basic

/-!
# Sets of diagnostics

The diagnostics of one run, grouped by file. Groups stand in the order in which their
files were first met, and a group holds its diagnostics in the order in which they were
added. `toList` is the list of all diagnostics, group by group.
-/

namespace HdlLint

/-- Diagnostics in groups. A group may be empty, and its file need not be the path of its
diagnostics. -/
structure DiagnosticSet where
  groups : List (String × List Diagnostic)
  deriving Repr

namespace DiagnosticSet

def empty : DiagnosticSet := ⟨[]⟩

/-- A diagnostic put at the end of the group of a file, or into a new last group. -/
def addTo (file : String) (d : Diagnostic) : List (String × List Diagnostic) →
    List (String × List Diagnostic)
  | [] => [(file, [d])]
  | (f, ds) :: r => if f = file then (f, ds ++ [d]) :: r else (f, ds) :: addTo file d r

/-- The set with one more diagnostic, in the group of its path. -/
def add (s : DiagnosticSet) (d : Diagnostic) : DiagnosticSet :=
  ⟨addTo d.path d s.groups⟩

/-- The set that holds the diagnostics of a list, added in order. -/
def ofList (ds : List Diagnostic) : DiagnosticSet :=
  ds.foldl add empty

/-- The group of a file replaced, or put behind the others. -/
def assign (file : String) (ds : List Diagnostic) :
    List (String × List Diagnostic) → List (String × List Diagnostic)
  | [] => [(file, ds)]
  | (f, ds') :: r => if f = file then (f, ds) :: r else (f, ds') :: assign file ds r

/-- The set with the given groups; of two groups of one file the later one counts. -/
def ofGroups (groups : List (String × List Diagnostic)) : DiagnosticSet :=
  ⟨groups.foldl (fun gs g => assign g.1 g.2 gs) []⟩

/-- The group of a file, if it has one. -/
def group? (s : DiagnosticSet) (file : String) : Option (List Diagnostic) :=
  s.groups.lookup file

def get (s : DiagnosticSet) (file : String) : List Diagnostic :=
  (s.group? file).getD []

/-- Whether a file has a group, which may be empty. -/
def contains (s : DiagnosticSet) (file : String) : Bool :=
  (s.group? file).isSome

/-- The files in the order of their groups. -/
def files (s : DiagnosticSet) : List String :=
  s.groups.map (·.1)

def toList (s : DiagnosticSet) : List Diagnostic :=
  s.groups.flatMap (·.2)

def size (s : DiagnosticSet) : Nat :=
  s.toList.length

def isNonempty (s : DiagnosticSet) : Bool :=
  s.groups.any fun g => !g.2.isEmpty

/-- Whether some diagnostic is an error. -/
def hasErrors (s : DiagnosticSet) : Bool :=
  s.toList.any fun d => d.severity = .error

/-- The groups of all files but one, their diagnostics added anew in order. -/
def without (s : DiagnosticSet) (file : String) : DiagnosticSet :=
  ofList ((s.groups.filter fun g => g.1 ≠ file).flatMap (·.2))

/-- Two sets are the same when they have the same files, in any order, with the same
groups. -/
def sameGroups (s t : DiagnosticSet) : Bool :=
  s.groups.length = t.groups.length && s.groups.all fun g => t.group? g.1 = some g.2

end DiagnosticSet

end HdlLint
