import HdlLint.Files
import Mathlib.Tactic

/-!
# Files that are kept

Making folders and opening a file to add to it leave every file as it is; what is new is
empty.  Adding bytes changes the one file they are added to.

* `Keeps`: all files stay and keep their bytes, and new files are empty.
* `keeps_makeFolders` and `keeps_openFile`: making folders and opening a file.
* `content_append`: adding bytes to a file.
-/

namespace HdlLint.FileTree

/-- The bytes of the file at a place, none if there is no file. -/
def content (t : FileTree) (place : List String) : List UInt8 :=
  match t.entry? place with
  | some (.file bytes) => bytes
  | _ => []

/-- There is a file at a place. -/
def HasFile (t : FileTree) (place : List String) : Prop :=
  ∃ bytes : List UInt8, t.entry? place = some (.file bytes)

/-- All files stay and keep their bytes, and new files are empty. -/
structure Keeps (t t' : FileTree) : Prop where
  content_eq : ∀ place : List String, t'.content place = t.content place
  hasFile : ∀ place : List String, t.HasFile place → t'.HasFile place

section Trees

variable {t t' t'' : FileTree} {place p : List String}

theorem Keeps.refl
    (t : FileTree) :
    Keeps t t :=
  ⟨fun _ => rfl, fun _ h => h⟩

theorem Keeps.trans
    (h : Keeps t t') (h' : Keeps t' t'') :
    Keeps t t'' :=
  ⟨fun p => (h'.content_eq p).trans (h.content_eq p),
    fun p hp => h'.hasFile p (h.hasFile p hp)⟩

theorem entry?_of_ne_nil
    (h : place ≠ []) :
    t.entry? place = t.entries.lookup place := by
  unfold entry?
  rw [if_neg (by simpa using h)]

theorem lookup_filter_of_ne
    {entries : List (List String × FileEntry)}
    (h : p ≠ place) :
    (entries.filter fun x => x.1 ≠ place).lookup p = entries.lookup p := by
  induction entries with
  | nil =>
      rfl
  | cons x entries ih =>
      by_cases hx : x.1 = place
      · have hp : (p == x.1) = false := by
          rw [hx]
          exact beq_eq_false_iff_ne.mpr h
        rw [List.filter_cons_of_neg (by simpa using hx), ih, List.lookup_cons, hp]
      · rw [List.filter_cons_of_pos (by simpa using hx),
          List.lookup_cons, List.lookup_cons, ih]

theorem entry?_insert
    (hplace : place ≠ []) (t : FileTree) (e : FileEntry) (p : List String) :
    entry? (t.insert place e) p = if p = place then some e else t.entry? p := by
  by_cases hroot : p = []
  · rw [hroot, if_neg (Ne.symm hplace)]
    rfl
  · rw [entry?_of_ne_nil hroot, entry?_of_ne_nil hroot, insert, List.lookup_append]
    by_cases hp : p = place
    · have hnone : (t.entries.filter fun x => x.1 ≠ place).lookup p = none := by
        rw [List.lookup_eq_none_iff]
        rintro x hx
        have hne : x.1 ≠ place := by simpa using (List.mem_filter.mp hx).2
        rw [hp]
        exact bne_iff_ne.mpr (Ne.symm hne)
      rw [hnone, if_pos hp, hp]
      simp
    · have hsingle : [(place, e)].lookup p = none := by
        simp [hp]
      rw [lookup_filter_of_ne hp, hsingle, if_neg hp, Option.or_none]

/-- A place that holds nothing can become a folder or an empty file. -/
theorem keeps_insert
    {e : FileEntry}
    (habsent : t.entry? place = none)
    (he : e = .folder ∨ e = .file []) :
    Keeps t (t.insert place e) := by
  have hplace : place ≠ [] := by
    rintro rfl
    cases habsent
  constructor
  · intro p
    rw [content, content, entry?_insert hplace]
    split_ifs with hp
    · rw [hp, habsent]
      rcases he with rfl | rfl <;> rfl
    · rfl
  · rintro p ⟨bytes, hbytes⟩
    have hp : p ≠ place := by
      rintro rfl
      rw [habsent] at hbytes
      cases hbytes
    exact ⟨bytes, by rw [entry?_insert hplace, if_neg hp, hbytes]⟩

/-- What a path finds absent holds nothing. -/
theorem entry?_of_walk_absent
    {ws : List Path.Component}
    (h : t.walk p ws = .absent place) :
    t.entry? place = none := by
  fun_induction walk t p ws with
  | case1 => cases h
  | case2 => cases h
  | case3 p w ws _ _ ih =>
      exact ih h
  | case4 p w ws _ _ _ ih =>
      exact ih h
  | case5 p w ws _ _ _ next _ _ ih =>
      exact ih h
  | case6 p w ws _ _ _ next hnext _ =>
      obtain rfl : next = place := FilePlace.absent.inj h
      exact hnext
  | case7 => cases h
  | case8 => cases h
  | case9 => cases h

theorem keeps_makeFolder
    {path : List Path.Component}
    (h : t.makeFolder path = .ok t') :
    Keeps t t' := by
  unfold makeFolder at h
  split at h
  · cases h
    exact .refl t
  · cases h
  · rename_i place hwalk
    cases h
    exact keeps_insert (entry?_of_walk_absent hwalk) (Or.inl rfl)
  · cases h
    exact .refl t
  · cases h

theorem keeps_makeFolders
    {path : List Path.Component} {n : Nat}
    (h : t.makeFolders path n = .ok t') :
    Keeps t t' := by
  induction n generalizing t' with
  | zero =>
      cases h
      exact .refl t
  | succ n ih =>
      unfold makeFolders at h
      split at h
      · cases habove : t.makeFolders path n with
        | error c =>
            rw [habove] at h
            cases h
        | ok above =>
            rw [habove] at h
            exact (ih habove).trans (keeps_makeFolder h)
      · exact keeps_makeFolder h

theorem keeps_openFile
    (h : t.openFile place = .ok t') :
    Keeps t t' ∧ t'.HasFile place := by
  unfold openFile at h
  split at h
  · cases h
  · rename_i bytes hfile
    cases h
    exact ⟨.refl t, bytes, hfile⟩
  · rename_i habsent
    cases h
    have hplace : place ≠ [] := by
      rintro rfl
      cases habsent
    refine ⟨keeps_insert habsent (Or.inr rfl), [], ?_⟩
    rw [entry?_insert hplace, if_pos rfl]

theorem entry?_append
    (t : FileTree) (place : List String) (bytes : List UInt8) (p : List String) :
    entry? (t.append place bytes) p =
      match t.entry? p with
      | some (.file old) => some (.file (if p = place then old ++ bytes else old))
      | e => e := by
  by_cases hroot : p = []
  · rw [hroot]
    rfl
  · rw [entry?_of_ne_nil hroot, entry?_of_ne_nil hroot, append]
    induction t.entries with
    | nil =>
        rfl
    | cons x entries ih =>
        obtain ⟨q, e⟩ := x
        rw [List.map_cons]
        by_cases hq : p = q
        · subst hq
          cases e with
          | folder =>
              simp
          | file old =>
              by_cases hplace : p = place <;> simp [hplace]
        · have hne : (p == q) = false := beq_eq_false_iff_ne.mpr hq
          rw [List.lookup_cons, List.lookup_cons, hne]
          cases e with
          | folder =>
              simpa [hne] using ih
          | file old =>
              by_cases hplace : q = place
              · rw [hplace] at hne
                simpa [hplace, hne] using ih
              · simpa [hplace, hne] using ih

theorem hasFile_append
    (h : t.HasFile p) (place : List String) (bytes : List UInt8) :
    (t.append place bytes).HasFile p := by
  obtain ⟨old, hold⟩ := h
  exact ⟨_, by rw [entry?_append, hold]⟩

/-- Adding bytes to a file that is there. -/
theorem content_append
    (h : t.HasFile place) (bytes : List UInt8) (p : List String) :
    (t.append place bytes).content p = t.content p ++ if p =
      place then bytes else [] := by
  rw [content, content, entry?_append]
  by_cases hp : p = place
  · obtain ⟨old, hold⟩ := h
    rw [hp, hold]
    simp
  · rw [if_neg hp]
    cases t.entry? p with
    | none =>
        rfl
    | some e =>
        cases e <;> simp [hp]

end Trees

end HdlLint.FileTree
