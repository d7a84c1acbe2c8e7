import HdlLint.Diagnostic.Set
import Mathlib.Tactic

/-!
# Grouped sets

A set is grouped if every file has one group, no group is empty and every diagnostic
stands in the group of its path. The sets to which diagnostics were added one by one are
grouped, and a grouped set is determined by the list of its diagnostics.

* `grouped_ofList`: adding diagnostics gives a grouped set.
* `Grouped.ofList_toList`: adding the diagnostics of a grouped set anew gives the set.
* `Grouped.without_eq`: hence dropping a file only drops its group.
-/

namespace HdlLint
namespace DiagnosticSet

/-- One group for every file, no empty group, and every diagnostic in the group of its
path. -/
structure Grouped (s : DiagnosticSet) : Prop where
  files_nodup : s.files.Nodup
  group_nonempty : ∀ g ∈ s.groups, g.2 ≠ []
  path_eq : ∀ g ∈ s.groups, ∀ d ∈ g.2, d.path = g.1

theorem grouped_empty : empty.Grouped where
  files_nodup := List.nodup_nil
  group_nonempty := by simp [empty]
  path_eq := by simp [empty]

section AddTo

variable {file : String} {d : Diagnostic} {groups : List (String × List Diagnostic)}

/-- A file without a group gets a new last one. -/
theorem addTo_of_not_mem
    (h : file ∉ groups.map (·.1)) :
    addTo file d groups = groups ++ [(file, [d])] := by
  induction groups with
  | nil =>
      rfl
  | cons g rest ih =>
      simp only [List.map_cons, List.mem_cons, not_or] at h
      rw [addTo, if_neg (Ne.symm h.1), ih h.2]
      rfl

theorem addTo_append_group
    (h : file ∉ groups.map (·.1)) (ds : List Diagnostic) :
    addTo file d (groups ++ [(file, ds)]) = groups ++ [(file, ds ++ [d])] := by
  induction groups with
  | nil =>
      simp [addTo]
  | cons g rest ih =>
      simp only [List.map_cons, List.mem_cons, not_or] at h
      rw [List.cons_append, addTo, if_neg (Ne.symm h.1), ih h.2]
      rfl

/-- No file loses its group, and no other file gets one. -/
theorem mem_files_addTo_iff
    {f : String} :
    f ∈ (addTo file d groups).map (·.1) ↔ f ∈ groups.map (·.1) ∨ f = file := by
  induction groups with
  | nil =>
      simp [addTo]
  | cons g rest ih =>
      unfold addTo
      split
      · rename_i hfile
        simp [hfile]
        tauto
      · simp only [List.map_cons, List.mem_cons, ih]
        tauto

theorem nodup_files_addTo
    (h : (groups.map (·.1)).Nodup) :
    ((addTo file d groups).map (·.1)).Nodup := by
  induction groups with
  | nil =>
      simp [addTo]
  | cons g rest ih =>
      rw [List.map_cons, List.nodup_cons] at h
      unfold addTo
      split
      · simpa using h
      · rename_i hfile
        rw [List.map_cons, List.nodup_cons]
        refine ⟨?_, ih h.2⟩
        intro hmem
        rcases mem_files_addTo_iff.mp hmem with hrest | heq
        · exact h.1 hrest
        · exact hfile heq

/-- A group after the addition is an old one, or one of the file with the diagnostic at
its end. -/
theorem mem_addTo
    {g : String × List Diagnostic}
    (h : g ∈ addTo file d groups) :
    g ∈ groups ∨
      ∃ ds : List Diagnostic,
        g = (file, ds ++ [d]) ∧ (ds = [] ∨ (file, ds) ∈ groups) := by
  induction groups with
  | nil =>
      obtain rfl := List.mem_singleton.mp h
      exact Or.inr ⟨[], rfl, Or.inl rfl⟩
  | cons g' rest ih =>
      obtain ⟨f, ds⟩ := g'
      unfold addTo at h
      split at h
      · rename_i hfile
        subst hfile
        rcases List.mem_cons.mp h with rfl | hrest
        · exact Or.inr ⟨ds, rfl, Or.inr List.mem_cons_self⟩
        · exact Or.inl (List.mem_cons_of_mem _ hrest)
      · rcases List.mem_cons.mp h with rfl | hrest
        · exact Or.inl List.mem_cons_self
        · rcases ih hrest with hold | ⟨ds', rfl, hds'⟩
          · exact Or.inl (List.mem_cons_of_mem _ hold)
          · exact Or.inr ⟨ds', rfl, hds'.imp_right (List.mem_cons_of_mem _)⟩

end AddTo

section Adding

variable {s : DiagnosticSet}

/-- An added diagnostic stands in the group of its path. -/
theorem Grouped.add
    (h : s.Grouped) (d : Diagnostic) :
    (s.add d).Grouped where
  files_nodup := nodup_files_addTo h.files_nodup
  group_nonempty := by
    intro g hg
    rcases mem_addTo hg with hold | ⟨ds, rfl, -⟩
    · exact h.group_nonempty g hold
    · simp
  path_eq := by
    intro g hg x hx
    rcases mem_addTo hg with hold | ⟨ds, rfl, hds⟩
    · exact h.path_eq g hold x hx
    · rcases List.mem_append.mp hx with hold | hnew
      · rcases hds with rfl | hgroup
        · cases hold
        · exact h.path_eq (d.path, ds) hgroup x hold
      · obtain rfl := List.mem_singleton.mp hnew
        rfl

theorem Grouped.foldl_add
    (h : s.Grouped) (ds : List Diagnostic) :
    (ds.foldl DiagnosticSet.add s).Grouped := by
  induction ds generalizing s with
  | nil =>
      exact h
  | cons d rest ih =>
      exact ih (h.add d)

/-- Adding diagnostics gives a grouped set. -/
theorem grouped_ofList
    (ds : List Diagnostic) :
    (ofList ds).Grouped :=
  grouped_empty.foldl_add ds

/-- The diagnostics of one file, added behind other files, stay together. -/
theorem foldl_add_group
    {file : String} {ds : List Diagnostic}
    (hfile : file ∉ s.files)
    (hpath : ∀ d ∈ ds, d.path = file)
    (before : List Diagnostic) :
    ds.foldl add ⟨s.groups ++ [(file, before)]⟩ =
      ⟨s.groups ++ [(file, before ++ ds)]⟩ := by
  induction ds generalizing before with
  | nil =>
      simp
  | cons d rest ih =>
      have hd : d.path = file := hpath d List.mem_cons_self
      have hadd :
          add ⟨s.groups ++ [(file, before)]⟩ d =
            ⟨s.groups ++ [(file, before ++ [d])]⟩ := by
        unfold add
        rw [hd, addTo_append_group hfile]
      rw [List.foldl_cons, hadd, ih (fun x hx => hpath x (List.mem_cons_of_mem _ hx)),
        List.append_assoc]
      rfl

/-- The groups of a grouped set, added behind other files, stay as they are. -/
theorem foldl_add_flatMap
    {groups : List (String × List Diagnostic)}
    (h : Grouped ⟨groups⟩)
    (hfiles : ∀ g ∈ groups, g.1 ∉ s.files) :
    (groups.flatMap (·.2)).foldl add s = ⟨s.groups ++ groups⟩ := by
  induction groups generalizing s with
  | nil =>
      simp
  | cons g rest ih =>
      obtain ⟨file, ds⟩ := g
      obtain ⟨d, ds, rfl⟩ :=
        List.exists_cons_of_ne_nil (h.group_nonempty _ List.mem_cons_self)
      have hfile : file ∉ s.files := hfiles _ List.mem_cons_self
      have hpath : ∀ x ∈ d :: ds, x.path = file := h.path_eq _ List.mem_cons_self
      -- the first diagnostic opens the group, and the others join it
      have hfirst : add s d = ⟨s.groups ++ [(file, [d])]⟩ := by
        unfold add
        rw [hpath d List.mem_cons_self, addTo_of_not_mem hfile]
      have hgroup :
          (d :: ds).foldl add s = ⟨s.groups ++ [(file, d :: ds)]⟩ := by
        rw [List.foldl_cons, hfirst,
          foldl_add_group hfile (fun x hx => hpath x (List.mem_cons_of_mem _ hx))]
        rfl
      have hnodup := h.files_nodup
      rw [files, List.map_cons, List.nodup_cons] at hnodup
      have hrest : Grouped ⟨rest⟩ :=
        ⟨hnodup.2, fun g hg => h.group_nonempty g (List.mem_cons_of_mem _ hg),
          fun g hg => h.path_eq g (List.mem_cons_of_mem _ hg)⟩
      have hfiles' : ∀ g ∈ rest, g.1 ∉ files ⟨s.groups ++ [(file, d :: ds)]⟩ := by
        intro g hg hmem
        simp only [files, List.map_append, List.map_cons, List.map_nil, List.mem_append,
          List.mem_singleton] at hmem
        rcases hmem with hold | rfl
        · exact hfiles g (List.mem_cons_of_mem _ hg) hold
        · exact hnodup.1 (List.mem_map.mpr ⟨g, hg, rfl⟩)
      rw [List.flatMap_cons, List.foldl_append, hgroup, ih hrest hfiles']
      simp

/-- Adding the diagnostics of a grouped set anew gives the set. -/
theorem Grouped.ofList_toList
    (h : s.Grouped) :
    ofList s.toList = s := by
  unfold ofList toList
  rw [foldl_add_flatMap h (by simp [empty, files])]
  rfl

end Adding

section Dropping

variable {s : DiagnosticSet}

/-- The set without the groups of some files. -/
def dropFiles (s : DiagnosticSet) (closed : List String) : DiagnosticSet :=
  ⟨s.groups.filter fun g => g.1 ∉ closed⟩

@[simp] theorem dropFiles_nil
    (s : DiagnosticSet) :
    s.dropFiles [] = s := by
  simp [dropFiles]

/-- Dropping files one after another drops all of them. -/
theorem dropFiles_dropFiles
    (s : DiagnosticSet) (closed others : List String) :
    (s.dropFiles closed).dropFiles others = s.dropFiles (closed ++ others) := by
  simp [dropFiles, List.filter_filter, Bool.and_comm]

theorem dropFiles_cons
    (s : DiagnosticSet) (file : String) (closed : List String) :
    s.dropFiles (file :: closed) = (s.dropFiles [file]).dropFiles closed :=
  (s.dropFiles_dropFiles [file] closed).symm

theorem Grouped.dropFiles
    (h : s.Grouped) (closed : List String) :
    (s.dropFiles closed).Grouped where
  files_nodup := h.files_nodup.sublist (List.filter_sublist.map _)
  group_nonempty := fun g hg => h.group_nonempty g (List.mem_of_mem_filter hg)
  path_eq := fun g hg => h.path_eq g (List.mem_of_mem_filter hg)

/-- Dropping a file from a grouped set drops its group and leaves the others as they
are. -/
theorem Grouped.without_eq
    (h : s.Grouped) (file : String) :
    s.without file = s.dropFiles [file] := by
  have hsame := (h.dropFiles [file]).ofList_toList
  simpa [without, DiagnosticSet.dropFiles, toList] using hsame

end Dropping

end DiagnosticSet
end HdlLint
