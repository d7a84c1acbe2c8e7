import HdlLint.Diagnostic.Set

/-!
# Sets that grow in place

A set in use grows in place: it names a list for each of its files, and whoever names a
list sees it grow. `HeldSets` holds the lists of all sets in use. A diagnostic that is
added is put at the end of the list of its file, or into a new one; a set that is copied
is held once more, with lists of its own that begin as those of the set.
-/

namespace HdlLint

/-- The files of a set, each with the number of the list that holds its diagnostics. -/
abbrev ListNumbers := List (String × Nat)

/-- Lists that grow, and the sets in use that name them. -/
structure HeldSets where
  lists : List (List Diagnostic) := []
  sets : List ListNumbers := []
  deriving Repr

/-- What is done with sets in use, which are counted from zero on. -/
inductive SetCall where
  /-- A new set is held, with the given groups. -/
  | make (groups : List (String × List Diagnostic))
  | add (i : Nat) (d : Diagnostic)
  | copy (i : Nat)
  deriving Repr

namespace HeldSets

/-- What is seen of a set. -/
def view (h : HeldSets) (numbers : ListNumbers) : DiagnosticSet :=
  ⟨numbers.map fun (file, n) => (file, h.lists.getD n [])⟩

/-- What is seen of all sets. -/
def views (h : HeldSets) : List DiagnosticSet :=
  h.sets.map h.view

/-- One more set, with new lists for its groups. -/
def hold (h : HeldSets) (groups : List (String × List Diagnostic)) : HeldSets where
  lists := h.lists ++ groups.map (·.2)
  sets := h.sets ++ [(groups.map (·.1)).zip (List.range' h.lists.length groups.length)]

/-- Adds a diagnostic to a set. -/
def add (h : HeldSets) (i : Nat) (d : Diagnostic) : HeldSets :=
  match h.sets[i]? with
  | none => h
  | some numbers =>
    match numbers.lookup d.path with
    | some n => { h with lists := h.lists.modify n (· ++ [d]) }
    | none => ⟨h.lists ++ [[d]], h.sets.set i (numbers ++ [(d.path, h.lists.length)])⟩

/-- Holds a set once more. -/
def copy (h : HeldSets) (i : Nat) : HeldSets :=
  match h.sets[i]? with
  | none => h
  | some numbers => h.hold (h.view numbers).groups

def call (h : HeldSets) : SetCall → HeldSets
  | .make groups => h.hold (DiagnosticSet.ofGroups groups).groups
  | .add i d => h.add i d
  | .copy i => h.copy i

/-- The sets in use after some calls. -/
def after (calls : List SetCall) : HeldSets :=
  calls.foldl call {}

end HeldSets

end HdlLint
