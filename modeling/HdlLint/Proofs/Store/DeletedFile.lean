import HdlLint.Proofs.Diagnostic.EncounterOrder
import HdlLint.Proofs.Store.CalledListeners
import HdlLint.Proofs.Store.ChangeOrder

/-!
# Deleting a file

A file is deleted by building the content anew from the diagnostics of the other groups.
What is built is grouped by the diagnostics' own paths: if they stood in groups of other
files, groups are merged, reordered or dropped, and even the deleted file may be there
again.  From a content in which every diagnostic stands in the group of its path, and no
group is empty, just the group of the file is removed.

* `groups_apply_delete`: the content after a deletion, whatever it was before.
* `DiagnosticSet.Grouped.removesOnly`: the laws of deletion for a grouped content.
* `delete_regroups`: the two together, and who is told of it.
-/

namespace HdlLint

namespace DiagnosticSet

/-- The diagnostics in the groups of all files but one, in order. -/
def filedElsewhere (s : DiagnosticSet) (file : String) : List Diagnostic :=
  (s.groups.filter fun g => g.1 ≠ file).flatMap (·.2)

/-- Deletion removes the group of a file and nothing else.  Hence to delete the file again
changes nothing, files are deleted in any order, a file without a group is deleted without
any change, and a deleted file has no group. -/
structure RemovesOnly (s : DiagnosticSet) (file : String) : Prop where
  groups_eq : ((Change.delete file).apply s).groups = s.groups.filter fun g => g.1 ≠ file
  again : (Change.delete file).apply ((Change.delete file).apply s) =
    (Change.delete file).apply s
  comm : ∀ other : String,
    (Change.delete other).apply ((Change.delete file).apply s) =
      (Change.delete file).apply ((Change.delete other).apply s)
  absent : s.contains file = false → (Change.delete file).apply s = s
  gone : ((Change.delete file).apply s).contains file = false

section Deletion

variable {s : DiagnosticSet}

/-- A deletion groups what stood in the groups of other files by its own paths. -/
theorem groups_apply_delete
    (s : DiagnosticSet) (file : String) :
    ((Change.delete file).apply s).groups = groupsByPath (s.filedElsewhere file) :=
  groups_ofList (s.filedElsewhere file)

theorem Grouped.apply_delete
    (h : s.Grouped) (file : String) :
    (Change.delete file).apply s = s.dropFiles [file] :=
  h.without_eq file

theorem dropFiles_congr
    {files others : List String}
    (h : ∀ file : String, file ∈ files ↔ file ∈ others) (s : DiagnosticSet) :
    s.dropFiles files = s.dropFiles others := by
  simp [dropFiles, h]

/-- The laws of deletion are those of dropping files. -/
theorem Grouped.removesOnly
    (h : s.Grouped) (file : String) :
    s.RemovesOnly file where
  groups_eq := by
    rw [h.apply_delete]
    simp [DiagnosticSet.dropFiles]
  again := by
    rw [h.apply_delete, (h.dropFiles [file]).apply_delete, dropFiles_dropFiles]
    exact dropFiles_congr (by simp) s
  comm := by
    intro other
    rw [h.apply_delete, h.apply_delete, (h.dropFiles [file]).apply_delete,
      (h.dropFiles [other]).apply_delete,
      dropFiles_dropFiles, dropFiles_dropFiles]
    exact dropFiles_congr (by simp [or_comm]) s
  absent := by
    intro habsent
    rw [h.apply_delete, dropFiles_of_not_contains habsent]
  gone := by
    rw [h.apply_delete]
    exact contains_dropFiles_self s file

end Deletion

end DiagnosticSet

namespace DiagnosticStore

section Deleting

/-- Deleting a file leaves the diagnostics of the other groups, grouped by their own paths
in the order of first occurrence.  The listeners are called in turn with what is left, all
of them unless one fails; if they only watch, there are no other notices.  A grouped
content loses the group of the file and nothing else. -/
theorem delete_regroups
    (s : DiagnosticStore) (path : String) :
    let left := (Change.delete path).apply s.current
    let deleted := s.publish (.delete path)
    left.groups = DiagnosticSet.groupsByPath (s.current.filedElsewhere path) ∧
    (∃ called uncalled : List Listener,
      s.listeners = called ++ uncalled ∧ (deleted.crash = none → uncalled = []) ∧
      InTurn (calls left called) deleted.notices ∧
      ((∀ l ∈ called, l.KeepsSnapshot) →
        calls left called = called.map fun l => ⟨l, left⟩)) ∧
    ((∀ l ∈ s.listeners, l.Watches) →
      deleted.notices = s.listeners.map fun l => ⟨l.name, left⟩) ∧
    ((∀ l ∈ s.listeners, l.MakesNoChange) → deleted.store.current = left) ∧
    (s.current.Grouped → s.current.RemovesOnly path) := by
  intro left deleted
  refine ⟨DiagnosticSet.groups_apply_delete s.current path, ?_, ?_, ?_, ?_⟩
  · obtain ⟨called, uncalled, hlisteners, hend, hturn⟩ := inTurn_publish s (.delete path)
    exact ⟨called, uncalled, hlisteners, hend, hturn,
      fun hkeeps => calls_of_keepsSnapshot hkeeps left⟩
  · exact fun hwatches => notices_publish_of_watches hwatches (.delete path)
  · exact fun hnochange => current_publish_of_makesNoChange hnochange (.delete path)
  · exact fun hgrouped => hgrouped.removesOnly path

/-- The diagnostic of the following two contents. -/
def sampleDiagnostic (path : String) : Diagnostic :=
  ⟨path, 0, 0, "m", linterName, .error, linterName⟩

/-- Two files, of which one is deleted while a listener watches. -/
theorem delete_regroups_watched :
    let s : DiagnosticStore :=
      ⟨.ofList [sampleDiagnostic "a.sv", sampleDiagnostic "b.sv",
        sampleDiagnostic "a.sv"], [viewer "B", viewer "B"]⟩
    let left := (Change.delete "a.sv").apply s.current
    s.current.Grouped ∧
      (∀ l ∈ s.listeners, l.Watches ∧ l.MakesNoChange ∧ l.KeepsSnapshot) ∧
    s.current.RemovesOnly "a.sv" ∧
    (s.publish (.delete "a.sv")).notices = [⟨"B", left⟩, ⟨"B", left⟩] ∧
    (s.publish (.delete "a.sv")).store.current = left ∧
    left.files = ["b.sv"] := by
  intro s left
  have hgrouped : s.current.Grouped :=
    DiagnosticSet.grouped_ofList _
  have hviewer : (viewer "B").Watches := by
    intro content r hr
    cases hr
  have hwatches : ∀ l ∈ s.listeners, l.Watches := by
    simp only [s, List.forall_mem_cons, List.not_mem_nil, false_imp_iff,
      implies_true, and_true]
    exact ⟨hviewer, hviewer⟩
  obtain ⟨-, -, hnotices, hcurrent, hremoves⟩ := delete_regroups s "a.sv"
  refine ⟨hgrouped, ?_, hremoves hgrouped, hnotices hwatches, ?_, by decide +kernel⟩
  · exact fun l hl =>
      ⟨hwatches l hl, (hwatches l hl).makesNoChange, (hwatches l hl).keepsSnapshot⟩
  · exact hcurrent fun l hl => (hwatches l hl).makesNoChange

/-- A deleted file that is there again: a diagnostic about it stood in the group of
another file. -/
example :
    ((Change.delete "a.sv").apply
        ⟨[("c.sv", []), ("b.sv", [sampleDiagnostic "a.sv"]),
          ("a.sv", [sampleDiagnostic "b.sv"])]⟩).files =
      ["a.sv"] := by
  decide +kernel

end Deleting

end DiagnosticStore
end HdlLint
