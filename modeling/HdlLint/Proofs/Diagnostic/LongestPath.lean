import HdlLint.Proofs.Diagnostic.LineTail

/-!
# The longest path of a diagnostic line

A path ends in a dot and letters, so that it is found by its last dot.  `CanEnd s stem r`
says that the dot behind `stem` can be the last one of a path that begins where `s`
begins.

* `longestPath?_eq_none_iff`: no path is found exactly when no dot can be the last one.
* `longestPath?_eq_some`: otherwise the dot that is found is the last one of those;
  `longestPath?_of_last` is the converse.

`path_length_le` turns the comparison of dots into one of whole paths.
-/

namespace HdlLint
namespace DiagnosticLine

open Text

/-- The dot behind `stem` can be the last one of a path of `s`; `r` is what stands behind
it. -/
def CanEnd (s stem r : List Char) : Prop :=
  s = stem ++ '.' :: r ∧ '\n' ∉ stem ∧ (ending? r).isSome = true

theorem canEnd_cons_iff
    {c : Char} {s stem r : List Char} :
    CanEnd (c :: s) stem r
      ↔
    (stem = [] ∧ c = '.' ∧ s = r ∧ (ending? r).isSome = true) ∨
    (∃ stem' : List Char, stem = c :: stem' ∧ c ≠ '\n' ∧ CanEnd s stem' r) := by
  unfold CanEnd
  constructor
  · rintro ⟨hs, hline, hend⟩
    cases stem with
    | nil =>
        obtain ⟨rfl, rfl⟩ := List.cons.inj hs
        exact Or.inl ⟨rfl, rfl, rfl, hend⟩
    | cons x stem' =>
        obtain ⟨rfl, rfl⟩ := List.cons.inj hs
        simp only [List.mem_cons, not_or] at hline
        exact Or.inr ⟨stem', rfl, Ne.symm hline.1, rfl, hline.2, hend⟩
  · rintro (⟨rfl, rfl, rfl, hend⟩ | ⟨stem', rfl, hc, rfl, hline, hend⟩)
    · exact ⟨rfl, by simp, hend⟩
    · exact ⟨rfl, by simp [hline, Ne.symm hc], hend⟩

theorem longestPath?_newline
    (before s : List Char) :
    longestPath? before ('\n' :: s) = none := by
  simp [longestPath?]

/-- A later dot is preferred to the first character. -/
theorem longestPath?_cons
    {c : Char}
    (hc : c ≠ '\n')
    (before s : List Char) :
    longestPath? before (c :: s) =
      (longestPath? (c :: before) s).or
        (if c = '.' then
          (ending? s).map fun e => ((c :: before).reverse ++ e.extension, e)
        else none) := by
  rw [longestPath?, if_neg hc]
  cases longestPath? (c :: before) s <;> rfl

theorem longestPath?_eq_none_iff
    {before s : List Char} :
    longestPath? before s = none ↔ ∀ stem r : List Char, ¬ CanEnd s stem r := by
  induction s generalizing before with
  | nil =>
      simp [longestPath?, CanEnd]
  | cons c s ih =>
      simp only [canEnd_cons_iff]
      by_cases hc : c = '\n'
      · subst hc
        rw [longestPath?_newline]
        simp
      · rw [longestPath?_cons hc, Option.or_eq_none_iff, ih]
        constructor
        · rintro ⟨hlater, hhere⟩ stem r (⟨-, rfl, rfl, hend⟩ | ⟨stem', -, -, hstem⟩)
          · rw [if_pos rfl, Option.map_eq_none_iff] at hhere
            rw [hhere] at hend
            cases hend
          · exact hlater stem' r hstem
        · intro h
          refine ⟨fun stem r hstem => h (c :: stem) r (Or.inr ⟨stem, rfl, hc, hstem⟩), ?_⟩
          split
          · rename_i hdot
            rw [Option.map_eq_none_iff]
            by_contra hsome
            exact h [] s (Or.inl ⟨rfl, hdot, rfl, Option.isSome_iff_ne_none.mpr hsome⟩)
          · rfl

/-- The dot that is found is the last one that a path can end at. -/
theorem longestPath?_eq_some
    {before s path : List Char} {e : Ending}
    (h : longestPath? before s = some (path, e)) :
    ∃ stem r : List Char,
      CanEnd s stem r ∧
      ending? r = some e ∧
      path = before.reverse ++ (stem ++ '.' :: e.extension) ∧
      ∀ stem' r' : List Char, CanEnd s stem' r' → stem'.length ≤ stem.length := by
  induction s generalizing before with
  | nil =>
      simp [longestPath?] at h
  | cons c s ih =>
      by_cases hc : c = '\n'
      · subst hc
        rw [longestPath?_newline] at h
        cases h
      · rw [longestPath?_cons hc] at h
        rcases Option.or_eq_some_iff.mp h with hlater | ⟨hnone, hhere⟩
        · obtain ⟨stem, r, hstem, he, hpath, hlast⟩ := ih hlater
          refine ⟨c :: stem, r, ?_, he, by simp [hpath], ?_⟩
          · exact canEnd_cons_iff.mpr (Or.inr ⟨stem, rfl, hc, hstem⟩)
          · intro stem' r' h'
            rcases canEnd_cons_iff.mp h' with ⟨rfl, -⟩ | ⟨stem'', rfl, -, h''⟩
            · simp
            · simpa using hlast stem'' r' h''
        · split at hhere
          · rename_i hdot
            subst hdot
            obtain ⟨e', he, heq⟩ := Option.map_eq_some_iff.mp hhere
            obtain ⟨rfl, rfl⟩ := Prod.mk.inj heq
            refine ⟨[], s, ?_, he, by simp, ?_⟩
            · exact ⟨rfl, by simp, Option.isSome_of_mem he⟩
            · intro stem' r' h'
              -- a later dot would have been found first
              rcases canEnd_cons_iff.mp h' with ⟨rfl, -⟩ | ⟨stem'', -, -, h''⟩
              · simp
              · exact absurd h'' (longestPath?_eq_none_iff.mp hnone stem'' r')
          · cases hhere

/-- The last dot that a path can end at is found. -/
theorem longestPath?_of_last
    {s stem r : List Char} {e : Ending}
    (before : List Char)
    (hend : CanEnd s stem r)
    (hlast : ∀ stem' r' : List Char, CanEnd s stem' r' → stem'.length ≤ stem.length)
    (he : ending? r = some e) :
    longestPath? before s = some (before.reverse ++ (stem ++ '.' :: e.extension), e) := by
  cases hs : longestPath? before s with
  | none =>
      exact absurd hend (longestPath?_eq_none_iff.mp hs stem r)
  | some found =>
      obtain ⟨path, e'⟩ := found
      obtain ⟨stem', r', hend', he', rfl, hlast'⟩ := longestPath?_eq_some hs
      have hlen : stem'.length = stem.length :=
        Nat.le_antisymm (hlast stem' r' hend') (hlast' stem r hend)
      obtain ⟨rfl, hr⟩ := List.append_inj (hend'.1.symm.trans hend.1) hlen
      obtain rfl := (List.cons.inj hr).2
      rw [he] at he'
      obtain rfl := Option.some.inj he'
      rfl

/-- A run does not reach past a character of another class. -/
theorem run_length_le
    {p : Char → Bool} {run u v : List Char} {c : Char}
    (hrun : ∀ x ∈ run, p x = true)
    (hc : p c = false)
    (hpre : run <+: u ++ c :: v) :
    run.length ≤ u.length := by
  by_contra hlt
  have hpre' : u ++ [c] <+: u ++ c :: v := ⟨v, by simp⟩
  have hu : u ++ [c] <+: run := by
    refine List.prefix_of_prefix_length_le hpre' hpre ?_
    simp
    omega
  have hmem : c ∈ run := hu.subset (by simp)
  rw [hrun c hmem] at hc
  cases hc

/-- Of two paths in one text the one with the later last dot ends later. -/
theorem path_length_le
    {stem stem' r r' extension extension' rest : List Char}
    (hsplit : stem' ++ '.' :: r' = stem ++ '.' :: r)
    (hr : r = extension ++ ':' :: rest)
    (hextension' : ∀ c ∈ extension', isAsciiLetter c = true)
    (hr' : extension' <+: r')
    (hle : stem'.length ≤ stem.length) :
    (stem' ++ '.' :: extension').length ≤ (stem ++ '.' :: extension).length := by
  have hpre' : stem' <+: stem ++ '.' :: r := ⟨'.' :: r', hsplit⟩
  have hpre : stem <+: stem ++ '.' :: r := ⟨'.' :: r, rfl⟩
  have hstem : stem' <+: stem := List.prefix_of_prefix_length_le hpre' hpre hle
  obtain ⟨between, rfl⟩ := hstem
  rw [List.append_assoc, List.append_cancel_left_eq] at hsplit
  cases between with
  | nil =>
      obtain rfl : r' = r := (List.cons.inj hsplit).2
      subst hr
      have hlen := run_length_le hextension' (by decide) hr'
      simp only [List.append_nil, List.length_append, List.length_cons]
      omega
  | cons c between =>
      obtain rfl : r' = between ++ '.' :: r := (List.cons.inj hsplit).2
      have hlen := run_length_le hextension' (by decide) hr'
      simp only [List.length_append, List.length_cons]
      omega

end DiagnosticLine
end HdlLint
