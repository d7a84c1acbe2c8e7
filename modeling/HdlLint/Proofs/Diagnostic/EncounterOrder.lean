import HdlLint.Proofs.Diagnostic.FileGroups

/-!
# Sets in the order of encounter

A set to which diagnostics were added one by one shows everything that their list says:
which files were met and in which order, what was said of one file and in which order, and
how many diagnostics there are.  Only the order between diagnostics of different files is
lost.

* `files_ofList`, `get_ofList` and `size_ofList`: the set in terms of the list.
* `perm_toList_ofList`: its diagnostics are those of the list.
* `Grouped.toList_eq_flatMap_get`: a grouped set lists its diagnostics file by file.
* `groups_ofList`: the groups of the set, in terms of the list.
-/

namespace HdlLint
namespace DiagnosticSet

section OneMore

variable {file : String} {d : Diagnostic}

/-- A file that has no group yet becomes the last one. -/
theorem files_addTo
    (groups : List (String × List Diagnostic)) :
    (addTo file d groups).map (·.1) =
      groups.map (·.1) ++ (if file ∈ groups.map (·.1) then [] else [file]) := by
  induction groups with
  | nil =>
      rfl
  | cons g rest ih =>
      unfold addTo
      by_cases hfile : g.1 = file
      · simp [hfile]
      · have hmem : file ∈ (g :: rest).map (·.1) ↔ file ∈ rest.map (·.1) := by
          rw [List.map_cons, List.mem_cons]
          exact or_iff_right (Ne.symm hfile)
        rw [if_neg hfile, if_congr hmem rfl rfl, List.map_cons, ih,
          List.map_cons, List.cons_append]

theorem lookup_addTo
    (groups : List (String × List Diagnostic)) (other : String) :
    ((addTo file d groups).lookup other).getD [] =
      (groups.lookup other).getD [] ++ (if file = other then [d] else []) := by
  induction groups with
  | nil =>
      by_cases hother : file = other
      · simp [addTo, hother]
      · have hne : (other == file) = false := by
          simpa using Ne.symm hother
        simp [addTo, hother, List.lookup_cons, hne]
  | cons g rest ih =>
      obtain ⟨f, ds⟩ := g
      unfold addTo
      by_cases hother : other = f
      · subst hother
        by_cases hfile : other = file
        · simp [hfile]
        · simp [hfile, Ne.symm hfile]
      · have hne : (other == f) = false := by
          simpa using hother
        by_cases hfile : f = file
        · subst hfile
          simp [List.lookup_cons, hne, Ne.symm hother]
        · simp [hfile, List.lookup_cons, hne, ih]

theorem perm_addTo
    (groups : List (String × List Diagnostic)) :
    ((addTo file d groups).flatMap (·.2)).Perm (groups.flatMap (·.2) ++ [d]) := by
  induction groups with
  | nil =>
      exact List.Perm.refl _
  | cons g rest ih =>
      unfold addTo
      split
      · rw [List.flatMap_cons, List.flatMap_cons, List.append_assoc, List.append_assoc]
        exact List.perm_append_comm.append_left g.2
      · rw [List.flatMap_cons, List.flatMap_cons, List.append_assoc]
        exact ih.append_left g.2

end OneMore

section Added

variable (ds : List Diagnostic)

theorem ofList_concat
    (d : Diagnostic) :
    ofList (ds ++ [d]) = (ofList ds).add d :=
  List.foldl_concat add empty d ds

/-- The files are those of the diagnostics, each at its first occurrence. -/
theorem files_ofList :
    (ofList ds).files = (ds.map (·.path)).eraseDups := by
  induction ds using List.reverseRecOn with
  | nil =>
      rfl
  | append_singleton ds d ih =>
      have hfiles : (ofList (ds ++ [d])).files =
          (ofList ds).files ++ (if d.path ∈ (ofList ds).files then [] else [d.path]) := by
        rw [ofList_concat]
        exact files_addTo _
      rw [hfiles, ih, List.map_append, List.eraseDups_append]
      by_cases hmem : d.path ∈ ds.map (·.path)
      · have hold : [d.path].removeAll (ds.map (·.path)) = [] := by
          simpa [List.removeAll] using hmem
        simp [hold, List.mem_eraseDups.mpr hmem]
      · have hnew : [d.path].removeAll (ds.map (·.path)) = [d.path] := by
          simpa [List.removeAll] using hmem
        have hnot : d.path ∉ (ds.map (·.path)).eraseDups :=
          fun h => hmem (List.mem_eraseDups.mp h)
        simp [hnew, hnot, List.eraseDups_cons]

/-- A file shows the diagnostics about it, in order. -/
theorem get_ofList
    (path : String) :
    (ofList ds).get path = ds.filter fun d => d.path = path := by
  induction ds using List.reverseRecOn with
  | nil =>
      rfl
  | append_singleton ds d ih =>
      have hget : (ofList (ds ++ [d])).get path =
          (ofList ds).get path ++ (if d.path = path then [d] else []) := by
        rw [ofList_concat]
        exact lookup_addTo _ path
      rw [hget, ih, List.filter_append, List.filter_singleton]
      simp

/-- No diagnostic is lost, and none is there twice. -/
theorem perm_toList_ofList :
    (ofList ds).toList.Perm ds := by
  induction ds using List.reverseRecOn with
  | nil =>
      exact List.Perm.refl _
  | append_singleton ds d ih =>
      rw [ofList_concat]
      exact (perm_addTo _).trans (ih.append_right [d])

theorem size_ofList :
    (ofList ds).size = ds.length :=
  (perm_toList_ofList ds).length_eq

theorem mem_toList_ofList
    {d : Diagnostic} :
    d ∈ (ofList ds).toList ↔ d ∈ ds :=
  (perm_toList_ofList ds).mem_iff

theorem hasErrors_ofList :
    (ofList ds).hasErrors = true ↔ ∃ d ∈ ds, d.severity = .error := by
  simp [hasErrors, mem_toList_ofList]

end Added

section Groups

variable {s : DiagnosticSet}

theorem group?_of_mem
    (h : s.files.Nodup)
    {g : String × List Diagnostic}
    (hg : g ∈ s.groups) :
    s.group? g.1 = some g.2 := by
  obtain ⟨groups⟩ := s
  have hnodup : (groups.map (·.1)).Nodup := h
  clear h
  unfold group?
  induction groups with
  | nil =>
      cases hg
  | cons g' rest ih =>
      rw [List.map_cons, List.nodup_cons] at hnodup
      rcases List.mem_cons.mp hg with rfl | hrest
      · rw [List.lookup_cons, beq_self_eq_true]
      · have hne : (g.1 == g'.1) = false := by
          rw [beq_eq_false_iff_ne]
          intro hsame
          exact hnodup.1 (hsame ▸ List.mem_map_of_mem hrest)
        rw [List.lookup_cons, hne]
        exact ih hrest hnodup.2

theorem Grouped.get_of_mem
    (h : s.Grouped)
    {g : String × List Diagnostic}
    (hg : g ∈ s.groups) :
    s.get g.1 = g.2 := by
  rw [get, group?_of_mem h.files_nodup hg]
  rfl

/-- A grouped set lists its diagnostics file by file. -/
theorem Grouped.toList_eq_flatMap_get
    (h : s.Grouped) :
    s.toList = s.files.flatMap s.get := by
  unfold toList files
  rw [List.flatMap_map]
  exact List.flatMap_congr fun g hg => (h.get_of_mem hg).symm

/-- A grouped set is its files in order, each with what it shows. -/
theorem Grouped.groups_eq_map_get
    (h : s.Grouped) :
    s.groups = s.files.map fun file => (file, s.get file) := by
  unfold files
  rw [List.map_map]
  refine (List.map_id s.groups).symm.trans (List.map_congr_left fun g hg => ?_)
  exact Prod.ext rfl (h.get_of_mem hg).symm

/-- Diagnostics grouped by their own paths, which stand in the order of their first
occurrences. -/
def groupsByPath (ds : List Diagnostic) : List (String × List Diagnostic) :=
  (ds.map (·.path)).eraseDups.map fun file => (file, ds.filter fun d => d.path = file)

theorem groups_ofList
    (ds : List Diagnostic) :
    (ofList ds).groups = groupsByPath ds := by
  rw [(grouped_ofList ds).groups_eq_map_get, files_ofList]
  exact List.map_congr_left fun file _ => by rw [get_ofList]

end Groups

end DiagnosticSet
end HdlLint
