import HdlLint.Path.Windows
import Mathlib.Tactic

/-!
# Windows paths written with slashes

A Windows path is written for the linter with slashes in place of its backslashes.  The
rules of Windows paths look at separators without telling the two kinds apart, so that
such a path is cut at the same places: its drive is as long, it is as absolute, and its
folder is the folder of the path, written with slashes.

* `toSlashes_eq_self_iff`: which paths stay the same with slashes.
* `isAbsolute_toSlashes`: a path with slashes is as absolute as it was.
* `driveLength_toSlashes`: the drive of a path, of whatever form.
* `folder_toSlashes`: the folder of a path.
-/

namespace HdlLint.Path

section Cuts

variable {isSeparator : Char → Bool} {f : Char → Char}

/-- A map that keeps separators and other characters apart commutes with the cut at the
last separator. -/
theorem splitLast_map
    (hf : ∀ c, isSeparator (f c) = isSeparator c) (s : List Char) :
    splitLast isSeparator (s.map f) =
      ((splitLast isSeparator s).1.map f, (splitLast isSeparator s).2.map f) := by
  have hclass : (fun c => !isSeparator c) ∘ f = fun c => !isSeparator c := by
    funext c
    simp [hf]
  simp only [splitLast, ← List.map_reverse, List.takeWhile_map, hclass,
    List.map_take, List.length_map]

theorem stripSeparators_map
    (hf : ∀ c, isSeparator (f c) = isSeparator c) (s : List Char) :
    stripSeparators isSeparator (s.map f) = (stripSeparators isSeparator s).map f := by
  have hclass : isSeparator ∘ f = isSeparator := by
    funext c
    simp [hf]
  simp only [stripSeparators, ← List.map_reverse, List.dropWhile_map,
    hclass, List.isEmpty_map]
  split <;> rfl

end Cuts

namespace Windows

theorem toSlashes_eq_nil_iff
    (s : List Char) :
    toSlashes s = [] ↔ s = [] := by
  rw [toSlashes, List.map_eq_nil_iff]

theorem toSlashes_eq_self_iff
    (s : List Char) :
    toSlashes s = s ↔ '\\' ∉ s := by
  induction s with
  | nil =>
      simp [toSlashes]
  | cons c rest ih =>
      by_cases hc : c = '\\'
      · subst hc
        simp [toSlashes]
      · have hne : ¬ '\\' = c := Ne.symm hc
        simpa [toSlashes, hc, hne] using ih

section Separators

variable (s : List Char)

theorem isSeparator_slash
    (c : Char) :
    isSeparator (if c = '\\' then '/' else c) = isSeparator c := by
  by_cases hc : c = '\\' <;> simp [isSeparator, hc]

theorem slash_eq_colon_iff
    (c : Char) :
    (if c = '\\' then '/' else c) = ':' ↔ c = ':' := by
  by_cases hc : c = '\\' <;> simp [hc]

/-- A path with slashes is as absolute as it was. -/
theorem isAbsolute_toSlashes :
    isAbsolute (toSlashes s) = isAbsolute s := by
  rcases s with _ | ⟨a, _ | ⟨b, _ | ⟨c, rest⟩⟩⟩
  · rfl
  · simp [toSlashes, isAbsolute, isSeparator_slash]
  · simp [toSlashes, isAbsolute, isSeparator_slash]
  · simp [toSlashes, isAbsolute, isSeparator_slash, slash_eq_colon_iff]

/-- With backslashes again, a path does not show that it was written with slashes. -/
theorem toBackslashes_toSlashes :
    toBackslashes (toSlashes s) = toBackslashes s := by
  rw [toBackslashes, toSlashes, List.map_map, toBackslashes]
  refine List.map_congr_left fun c _ => ?_
  by_cases hc : c = '\\' <;> simp [hc]

theorem take_toSlashes
    (n : Nat) :
    (toSlashes s).take n = toSlashes (s.take n) :=
  List.map_take.symm

theorem drop_toSlashes
    (n : Nat) :
    (toSlashes s).drop n = toSlashes (s.drop n) :=
  List.map_drop.symm

theorem toSlashes_append
    (t : List Char) :
    toSlashes (s ++ t) = toSlashes s ++ toSlashes t :=
  List.map_append

/-- Host and share end at the same separators. -/
theorem networkLength_toSlashes
    (start : Nat) :
    networkLength (toSlashes s) start = networkLength s start := by
  have hclass : (fun c => !isSeparator c) ∘ (fun c => if c = '\\' then '/' else c) =
      fun c => !isSeparator c := by
    funext c
    simp [isSeparator_slash]
  simp only [networkLength, toSlashes, ← List.map_drop, List.takeWhile_map,
    hclass, List.length_map]

/-- The drive takes as many characters, whether it is a letter and a colon, a network
share or a device. -/
theorem driveLength_toSlashes :
    driveLength (toSlashes s) = driveLength s := by
  rcases s with _ | ⟨a, _ | ⟨b, rest⟩⟩
  · rfl
  · rfl
  · have hstart : toBackslashes ((toSlashes (a :: b :: rest)).take 8) =
        toBackslashes ((a :: b :: rest).take 8) := by
      rw [take_toSlashes, toBackslashes_toSlashes]
    have hcons : toSlashes (a :: b :: rest) =
        (if a = '\\' then '/' else a) ::
          (if b = '\\' then '/' else b) :: toSlashes rest := rfl
    rw [hcons, driveLength, ← hcons, hstart, driveLength]
    simp only [isSeparator_slash, slash_eq_colon_iff, networkLength_toSlashes]

theorem splitDrive_toSlashes :
    splitDrive (toSlashes s) =
      (toSlashes (splitDrive s).1, toSlashes (splitDrive s).2) := by
  simp only [splitDrive, List.splitAt_eq, driveLength_toSlashes,
    take_toSlashes, drop_toSlashes]

/-- The folder of a path with slashes is the folder of the path, with slashes. -/
theorem folder_toSlashes :
    folder (toSlashes s) = toSlashes (folder s) := by
  have hlast : ∀ t : List Char,
      (splitLast isSeparator (toSlashes t)).1 = toSlashes (splitLast isSeparator t).1 :=
        fun t => by
    rw [toSlashes, splitLast_map isSeparator_slash, ← toSlashes]
  have hstrip : ∀ t : List Char,
      stripSeparators isSeparator (toSlashes t) =
        toSlashes (stripSeparators isSeparator t) :=
    fun t => stripSeparators_map isSeparator_slash t
  unfold folder
  rw [splitDrive_toSlashes]
  dsimp only
  rw [hlast, hstrip, toSlashes_append]

end Separators

end Windows

end HdlLint.Path
