import HdlLint.Proofs.Diagnostic.SetsInUse
import HdlLint.Proofs.Diagnostic.WellFormed

/-!
# Sets that are the same

Two sets are the same if they have the same groups, whatever the order of these.  A set to
which diagnostics were added one by one is known by what it says of every file, so only
the order among diagnostics of one file matters.

* `Grouped.sameGroups_iff`: grouped sets are the same if every file shows the same in
  both.
* `sameGroups_self`: a set is the same as itself if its files have one group each.
* `sameGroups_ofList_and_copies`: sets made of diagnostics, neighbours that change places,
  and copies of sets in use.
-/

namespace HdlLint
namespace DiagnosticSet

section Groups

variable {s t : DiagnosticSet} {file : String}

theorem mem_of_group?
    {ds : List Diagnostic}
    (h : s.group? file = some ds) :
    (file, ds) ∈ s.groups := by
  obtain ⟨front, back, hgroups, -⟩ := List.lookup_eq_some_iff.mp h
  rw [hgroups]
  simp

/-- A set whose files have one group each is the same as itself. -/
theorem sameGroups_self
    (h : s.files.Nodup) :
    s.sameGroups s = true := by
  simp only [sameGroups, decide_true, Bool.true_and, List.all_eq_true, decide_eq_true_eq]
  exact fun g hg => group?_of_mem h hg

/-- Sets with as many files of which each has its group in the other are the same both
ways. -/
theorem sameGroups_iff_group?
    (hs : s.files.Nodup)
    (ht : t.files.Nodup) :
    s.sameGroups t = true ↔ ∀ file : String, s.group? file = t.group? file := by
  simp only [sameGroups, Bool.and_eq_true, decide_eq_true_eq, List.all_eq_true]
  constructor
  · rintro ⟨hlength, hgroups⟩ file
    have hsubset : s.files ⊆ t.files := by
      intro f hf
      obtain ⟨g, hg, rfl⟩ := List.mem_map.mp hf
      exact List.mem_map.mpr ⟨_, mem_of_group? (hgroups g hg), rfl⟩
    -- as many files, each there once, cannot be fewer
    have hfiles : t.files ⊆ s.files := by
      have hperm :=
        (List.subperm_of_subset hs hsubset).perm_of_length_le (by simp [files, hlength])
      exact hperm.symm.subset
    cases hfound : t.group? file with
    | none =>
        by_contra hother
        obtain ⟨ds, hds⟩ := Option.ne_none_iff_exists'.mp hother
        have hgroup := hgroups _ (mem_of_group? hds)
        rw [hfound] at hgroup
        cases hgroup
    | some ds =>
        obtain ⟨g, hg, hfile⟩ :=
          List.mem_map.mp (hfiles (List.mem_map_of_mem (mem_of_group? hfound)))
        subst hfile
        have hgroup := (hgroups g hg).symm.trans hfound
        rw [group?_of_mem hs hg, hgroup]
  · intro hgroups
    have hperm : s.files.Perm t.files := by
      refine (List.perm_ext_iff_of_nodup hs ht).mpr fun f => ?_
      have hmem : ∀ u : DiagnosticSet, f ∈ u.files ↔ u.group? f ≠ none := by
        intro u
        rw [group?, Ne, List.lookup_eq_none_iff]
        simp [files]
      rw [hmem, hmem, hgroups]
    refine ⟨by simpa [files] using hperm.length_eq, fun g hg => ?_⟩
    rw [← hgroups, group?_of_mem hs hg]

/-- What a grouped set says of a file tells whether the file has a group. -/
theorem Grouped.group?_eq
    (h : s.Grouped) (file : String) :
    s.group? file = if s.get file = [] then none else some (s.get file) := by
  unfold get
  cases hfound : s.group? file with
  | none =>
      rfl
  | some ds =>
      have hne : ds ≠ [] := h.group_nonempty _ (mem_of_group? hfound)
      simp [hne]

/-- Grouped sets are the same if every file shows the same in both. -/
theorem Grouped.sameGroups_iff
    (hs : s.Grouped)
    (ht : t.Grouped) :
    s.sameGroups t = true ↔ ∀ file : String, s.get file = t.get file := by
  rw [sameGroups_iff_group? hs.files_nodup ht.files_nodup]
  refine forall_congr' fun file => ⟨fun h => by rw [get, get, h], fun h => ?_⟩
  rw [hs.group?_eq, ht.group?_eq, h]

end Groups

section Lists

variable {before after : List Diagnostic} {d e : Diagnostic}

/-- Sets made of diagnostics are the same if every file has the same diagnostics in the
same order. -/
theorem sameGroups_ofList_iff
    (ds es : List Diagnostic) :
    (ofList ds).sameGroups (ofList es) = true ↔
      ∀ path : String, (ds.filter fun d => d.path = path) =
        es.filter fun d => d.path = path := by
  rw [(grouped_ofList ds).sameGroups_iff (grouped_ofList es)]
  simp only [get_ofList]

/-- Neighbours of different files can change places. -/
theorem filter_path_swap
    (h : d.path ≠ e.path) (path : String) :
    ((before ++ d :: e :: after).filter fun x => x.path = path) =
      (before ++ e :: d :: after).filter fun x => x.path = path := by
  simp only [List.filter_append, List.filter_cons]
  by_cases hd : d.path = path
  · have he : e.path ≠ path := fun he => h (hd.trans he.symm)
    simp [hd, he]
  · simp [hd]

/-- Sets that show the same of every file cannot be told apart. -/
theorem Grouped.indistinguishable
    {s t : DiagnosticSet}
    (hs : s.Grouped)
    (ht : t.Grouped)
    (hget : ∀ path : String, s.get path = t.get path)
    {u : DiagnosticSet}
    (hu : u.files.Nodup) :
    s.sameGroups u = t.sameGroups u ∧ u.sameGroups s = u.sameGroups t := by
  have hgroup : ∀ file : String, s.group? file = t.group? file := by
    intro file
    rw [hs.group?_eq, ht.group?_eq, hget]
  constructor
  · rw [Bool.eq_iff_iff, sameGroups_iff_group? hs.files_nodup hu,
      sameGroups_iff_group? ht.files_nodup hu]
    simp only [hgroup]
  · rw [Bool.eq_iff_iff, sameGroups_iff_group? hu hs.files_nodup,
      sameGroups_iff_group? hu ht.files_nodup]
    simp only [hgroup]

end Lists

section Copies

theorem foldl_onValues_add
    (i : Nat) (ds : List Diagnostic) (sets : List DiagnosticSet) :
    (ds.map (SetCall.add i)).foldl SetCall.onValues sets =
      sets.modify i fun s => ds.foldl add s := by
  induction ds generalizing sets with
  | nil =>
      exact (List.modify_id i sets).symm
  | cons d ds ih =>
      rw [List.map_cons, List.foldl_cons, ih, SetCall.onValues, List.modify_modify_eq]
      rfl

/-- A set in use is copied, and then diagnostics are added to it: they are seen in the
set, and not in the copy. -/
theorem views_copy_add
    {calls : List SetCall} {i : Nat} {s : DiagnosticSet}
    (hs : (HeldSets.after calls).views[i]? = some s) (ds : List Diagnostic) :
    let later := (HeldSets.after (calls ++ .copy i :: ds.map (SetCall.add i))).views
    later[(HeldSets.after calls).sets.length]? = some s ∧
      later[i]? = some (ds.foldl add s) := by
  intro later
  have hlength : (HeldSets.after calls).sets.length =
      (HeldSets.after calls).views.length := by
    rw [HeldSets.views, List.length_map]
  have hi : i < (HeldSets.after calls).views.length := (List.getElem?_eq_some_iff.mp hs).1
  have hlater : later = ((HeldSets.after calls).views ++ [s]).modify i fun s =>
      ds.foldl add s := by
    rw [show later = _ from (HeldSets.views_after _).1,
      List.foldl_append, ← (HeldSets.views_after calls).1, List.foldl_cons,
      SetCall.onValues, hs, Option.toList_some, foldl_onValues_add]
  rw [hlater, hlength, List.getElem?_modify, List.getElem?_modify,
    List.getElem?_concat_length,
    List.getElem?_append_left hi, hs]
  exact ⟨by simp [Nat.ne_of_lt hi], by simp⟩

/-- Sets made of diagnostics are the same exactly if every file has the same diagnostics
in the same order; so neighbours of different files can change places, and nothing that a
set shows is changed.  A copy of a set in use is the same as the set, and stays so
whatever is added to the set. -/
theorem sameGroups_ofList_and_copies :
    (∀ ds es : List Diagnostic,
      (ofList ds).sameGroups (ofList es) = true ↔
        ∀ path : String, (ds.filter fun d => d.path = path) =
          es.filter fun d => d.path = path) ∧
    (∀ (before after : List Diagnostic) (d e : Diagnostic), d.path ≠ e.path →
      let s := ofList (before ++ d :: e :: after)
      let t := ofList (before ++ e :: d :: after)
      s.sameGroups t = true ∧
      (∀ u : DiagnosticSet, u.files.Nodup → s.sameGroups u = t.sameGroups u ∧
        u.sameGroups s = u.sameGroups t) ∧
      s.size = t.size ∧ s.isNonempty = t.isNonempty ∧ s.hasErrors = t.hasErrors ∧
      ∀ path : String, s.get path = t.get path) ∧
    (∀ (calls : List SetCall) (i : Nat) (s : DiagnosticSet),
      (HeldSets.after calls).views[i]? = some s →
      ∀ added : List Diagnostic,
        let later :=
          (HeldSets.after (calls ++ .copy i :: added.map (SetCall.add i))).views
        later[i]? = some (added.foldl add s) ∧
        ∃ copied : DiagnosticSet,
          later[(HeldSets.after calls).sets.length]? = some copied ∧ copied = s ∧
          copied.sameGroups s = true) := by
  refine ⟨sameGroups_ofList_iff, ?_, ?_⟩
  · intro before after d e hpath s t
    have hs : s.Grouped := grouped_ofList _
    have ht : t.Grouped := grouped_ofList _
    have hget : ∀ path : String, s.get path = t.get path := by
      intro path
      rw [get_ofList, get_ofList, filter_path_swap hpath]
    have hperm : (before ++ d :: e :: after).Perm (before ++ e :: d :: after) :=
      (List.Perm.swap e d after).append_left before
    have hsize : s.size = t.size := by
      rw [size_ofList, size_ofList, hperm.length_eq]
    have hnonempty : s.isNonempty = t.isNonempty := by
      rw [Bool.eq_iff_iff, hs.nonempty_iff.1, ht.nonempty_iff.1, hsize]
    have herrors : s.hasErrors = t.hasErrors := by
      rw [Bool.eq_iff_iff, hasErrors_ofList, hasErrors_ofList]
      simp only [hperm.mem_iff]
    exact ⟨(hs.sameGroups_iff ht).mpr hget, fun u hu => hs.indistinguishable ht hget hu,
      hsize, hnonempty, herrors, hget⟩
  · intro calls i s hs added later
    obtain ⟨hcopy, horiginal⟩ := views_copy_add hs added
    have hnodup := (HeldSets.views_after calls).2.2 s (List.mem_of_getElem? hs)
    exact ⟨horiginal, s, hcopy, rfl, sameGroups_self hnodup⟩

end Copies

end DiagnosticSet
end HdlLint
