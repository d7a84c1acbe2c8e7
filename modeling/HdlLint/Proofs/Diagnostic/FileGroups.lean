import HdlLint.Proofs.Diagnostic.GroupedSet

/-!
# What a set shows of one file

The diagnostics of a grouped set that are about one file are those of its group, and
dropping files leaves exactly the diagnostics of the others.

* `Grouped.get_eq`: the group of a file.
* `Grouped.toList_dropFiles`: what is left without some files.
* `get_ofList_of_path` and `toList_without_of_path`: diagnostics that are all about one
  file.
-/

namespace HdlLint
namespace DiagnosticSet

section OneFile

variable {s : DiagnosticSet} {file : String}

theorem contains_eq_false_iff :
    s.contains file = false ↔ ∀ g ∈ s.groups, g.1 ≠ file := by
  unfold contains group?
  rw [Option.isSome_eq_false_iff, Option.isNone_iff_eq_none, List.lookup_eq_none_iff]
  refine forall₂_congr fun g _ => ?_
  rw [bne_iff_ne]
  exact ne_comm

theorem contains_dropFiles_self
    (s : DiagnosticSet) (file : String) :
    (s.dropFiles [file]).contains file = false := by
  rw [contains_eq_false_iff]
  intro g hg
  have hmem := (List.mem_filter.mp hg).2
  simpa using hmem

/-- Dropping a file that has no group changes nothing. -/
theorem dropFiles_of_not_contains
    (h : s.contains file = false) :
    s.dropFiles [file] = s := by
  unfold dropFiles
  rw [List.filter_eq_self.mpr]
  intro g hg
  simpa using contains_eq_false_iff.mp h g hg

/-- The diagnostics about files of some kind are those of the groups of these files. -/
theorem Grouped.filter_toList
    (h : s.Grouped) (p : String → Bool) :
    (s.toList.filter fun d => p d.path) =
      (s.groups.filter fun g => p g.1).flatMap (·.2) := by
  obtain ⟨groups⟩ := s
  have hpath := h.path_eq
  clear h
  simp only [toList] at hpath ⊢
  induction groups with
  | nil =>
      rfl
  | cons g rest ih =>
      have hfirst := hpath g List.mem_cons_self
      have hrest := ih fun g' hg' => hpath g' (List.mem_cons_of_mem _ hg')
      rw [List.flatMap_cons, List.filter_append, hrest]
      by_cases hg : p g.1 = true
      · have hall : (g.2.filter fun d => p d.path) = g.2 := by
          rw [List.filter_eq_self]
          intro d hd
          rw [hfirst d hd]
          exact hg
        simp [hall, hg]
      · have hnone : (g.2.filter fun d => p d.path) = [] := by
          rw [List.filter_eq_nil_iff]
          intro d hd
          rw [hfirst d hd]
          exact hg
        simp [hnone, hg]

/-- Without some files the diagnostics about the others are left, in order. -/
theorem Grouped.toList_dropFiles
    (h : s.Grouped) (closed : List String) :
    (s.dropFiles closed).toList = s.toList.filter fun d => d.path ∉ closed :=
  (h.filter_toList fun file => file ∉ closed).symm

/-- Of groups with different files at most one is that of a file. -/
theorem lookup_eq_filter
    {groups : List (String × List Diagnostic)}
    (h : (groups.map (·.1)).Nodup) (file : String) :
    (groups.lookup file).getD [] = (groups.filter fun g => g.1 = file).flatMap (·.2) := by
  induction groups with
  | nil =>
      rfl
  | cons g rest ih =>
      rw [List.map_cons, List.nodup_cons] at h
      rw [List.lookup_cons]
      by_cases hg : g.1 = file
      · have hnone : (rest.filter fun g' => g'.1 = file) = [] := by
          rw [List.filter_eq_nil_iff]
          intro g' hg' hfile
          have hsame : g'.1 = g.1 := (of_decide_eq_true hfile).trans hg.symm
          exact h.1 (hsame ▸ List.mem_map_of_mem hg')
        simp [hg, hnone]
      · have hne : (file == g.1) = false := by
          simpa using Ne.symm hg
        simp [hg, hne, ih h.2]

/-- The group of a file holds the diagnostics that are about it, in order. -/
theorem Grouped.get_eq
    (h : s.Grouped) (file : String) :
    s.get file = s.toList.filter fun d => d.path = file := by
  rw [h.filter_toList fun f => f = file]
  exact lookup_eq_filter h.files_nodup file

end OneFile

section OnePath

variable {file : String} {ds : List Diagnostic}

/-- Diagnostics that are all about one file make one group. -/
theorem toList_ofList_of_path
    (h : ∀ d ∈ ds, d.path = file) :
    (ofList ds).toList = ds := by
  cases ds with
  | nil =>
      rfl
  | cons d rest =>
      have hfirst : empty.add d = ⟨[] ++ [(file, [d])]⟩ := by
        rw [← h d List.mem_cons_self]
        rfl
      have hrest : ∀ x ∈ rest, x.path = file :=
        fun x hx => h x (List.mem_cons_of_mem _ hx)
      have hgroup : ofList (d :: rest) = ⟨[(file, d :: rest)]⟩ := by
        unfold ofList
        rw [List.foldl_cons, hfirst]
        exact foldl_add_group (s := empty) (by simp [empty, files]) hrest [d]
      rw [hgroup]
      simp [toList]

theorem get_ofList_of_path
    (h : ∀ d ∈ ds, d.path = file) (other : String) :
    (ofList ds).get other = if file = other then ds else [] := by
  rw [(grouped_ofList ds).get_eq, toList_ofList_of_path h]
  split
  · rename_i hfile
    rw [List.filter_eq_self]
    intro d hd
    simp [h d hd, hfile]
  · rename_i hfile
    rw [List.filter_eq_nil_iff]
    intro d hd
    simp [h d hd, hfile]

theorem toList_without_of_path
    (h : ∀ d ∈ ds, d.path = file) (other : String) :
    ((ofList ds).without other).toList = if file = other then [] else ds := by
  have hgrouped := grouped_ofList ds
  rw [hgrouped.without_eq, hgrouped.toList_dropFiles, toList_ofList_of_path h]
  split
  · rename_i hfile
    rw [List.filter_eq_nil_iff]
    intro d hd
    simp [h d hd, hfile]
  · rename_i hfile
    rw [List.filter_eq_self]
    intro d hd
    simp [h d hd, hfile]

end OnePath

end DiagnosticSet
end HdlLint
