import HdlLint.Report.Layout
import Mathlib.Tactic

/-!
# Counting cells

The cells of a text are counted from its beginning, since some characters change what
stands beside them.  What a count depends on is its state: the last character that takes
cells, and whether a joiner stands last.  A text without a joiner at its end takes as many
cells before others as by itself.

* `cellsAfter_append`: a count goes on where it has come to.
* `cellCount_append_spaces`: spaces behind a text.
* `cellCount_add_le`: two texts by themselves take no more cells than one behind the
  other.
* `sum_cellCount_wordsWithBlanks_le`: nor do the words of a line.
-/

namespace HdlLint
namespace Report

/-- The state of a count behind a text: the last character that takes cells, and whether a
joiner stands last. -/
def cellState (last : Option Char) (joined : Bool) : List Char → Option Char × Bool
  | [] => (last, joined)
  | c :: r =>
    if joined then cellState last false r
    else if c = joiner then cellState last true r
    else if c = wideSelector then cellState none false r
    else if cellWidth c = 0 then cellState last false r
    else cellState (some c) false r

/-- A text that does not end in a joiner. -/
def EndsUnjoined (s : List Char) : Prop :=
  s.getLast? ≠ some joiner

section Counts

variable {last : Option Char} {joined : Bool} {s t : List Char}

theorem cellsAfter_append
    (last : Option Char) (joined : Bool) (s t : List Char) :
    cellsAfter last joined (s ++ t) =
      cellsAfter last joined s + cellsAfter (cellState last joined s).1
        (cellState last joined s).2 t := by
  induction s generalizing last joined with
  | nil => simp [cellsAfter, cellState]
  | cons c s ih =>
      rw [List.cons_append, cellsAfter, cellsAfter, cellState]
      split
      · exact ih last false
      split
      · exact ih last true
      split
      · rw [ih, Nat.add_assoc]
      split
      · exact ih last false
      · rw [ih, Nat.add_assoc]

theorem cellState_of_endsUnjoined
    (h : EndsUnjoined s)
    (hjoined : joined = false ∨ s ≠ []) :
    (cellState last joined s).2 = false := by
  induction s generalizing last joined with
  | nil => simpa [cellState] using hjoined
  | cons c s ih =>
      -- behind a joiner something must follow, since the text does not end in one
      have hrest : c = joiner → s ≠ [] := by
        rintro rfl rfl
        exact h rfl
      have hs : EndsUnjoined s := by
        cases s with
        | nil => simp [EndsUnjoined]
        | cons d s => exact fun hlast => h (by rw [List.getLast?_cons_cons, hlast])
      rw [cellState]
      split
      · exact ih hs (Or.inl rfl)
      split
      · rename_i hc
        exact ih hs (Or.inr (hrest hc))
      split
      · exact ih hs (Or.inl rfl)
      split <;> exact ih hs (Or.inl rfl)

theorem cellsAfter_none_le
    (last : Option Char) (joined : Bool) (s : List Char) :
    cellsAfter none joined s ≤ cellsAfter last joined s := by
  induction s generalizing joined with
  | nil => simp [cellsAfter]
  | cons c s ih =>
      rw [cellsAfter, cellsAfter]
      split
      · exact ih false
      split
      · exact ih true
      split
      · exact Nat.add_le_add_right (by simp [widening]) _
      split
      · exact ih false
      · exact Nat.le_refl _

theorem cellCount_append
    (h : EndsUnjoined s) (t : List Char) :
    cellCount (s ++ t) = cellCount s + cellsAfter (cellState none false s).1 false t := by
  rw [cellCount, cellsAfter_append, cellState_of_endsUnjoined h (Or.inl rfl), cellCount]

theorem cellsAfter_spaces
    (last : Option Char) (n : Nat) :
    cellsAfter last false (spaces n) = n := by
  induction n generalizing last with
  | zero => rfl
  | succ n ih =>
      have hwidth : cellWidth ' ' = 1 := by decide
      rw [spaces, List.replicate_succ, cellsAfter, if_neg Bool.false_ne_true,
        if_neg (by decide), if_neg (by decide), hwidth,
        if_neg Nat.one_ne_zero]
      change 1 + cellsAfter (some ' ') false (spaces n) = n + 1
      rw [ih, Nat.add_comm]

theorem cellCount_spaces
    (n : Nat) :
    cellCount (spaces n) = n :=
  cellsAfter_spaces none n

theorem cellCount_append_spaces
    (h : EndsUnjoined s) (n : Nat) :
    cellCount (s ++ spaces n) = cellCount s + n := by
  rw [cellCount_append h, cellsAfter_spaces]

theorem cellCount_add_le
    (h : EndsUnjoined s) (t : List Char) :
    cellCount s + cellCount t ≤ cellCount (s ++ t) := by
  rw [cellCount_append h]
  exact Nat.add_le_add_left (cellsAfter_none_le _ _ _) _

theorem cellCount_le_append
    (s t : List Char) :
    cellCount s ≤ cellCount (s ++ t) := by
  rw [cellCount, cellCount, cellsAfter_append]
  exact Nat.le_add_right _ _

/-- Printable characters of ASCII take one cell each. -/
theorem cellCount_of_ascii
    (h : ∀ c ∈ s, 0x20 ≤ c.toNat ∧ c.toNat ≤ 0x7E) :
    cellCount s = s.length := by
  have hafter : ∀ last : Option Char, cellsAfter last false s = s.length := by
    induction s with
    | nil => exact fun _ => rfl
    | cons c s ih =>
        intro last
        rw [List.forall_mem_cons] at h
        have hwidth : cellWidth c = 1 := by simp [cellWidth, h.1]
        rw [cellsAfter, if_neg Bool.false_ne_true,
          if_neg (by rintro rfl; exact absurd h.1.2 (by decide)),
          if_neg (by rintro rfl; exact absurd h.1.2 (by decide)), hwidth,
            if_neg Nat.one_ne_zero, ih h.2, List.length_cons,
          Nat.add_comm]
  exact hafter none

end Counts

section Words

theorem endsUnjoined_of_isBlank
    {c : Char} {s : List Char}
    (h : Text.isBlank c = true) :
    EndsUnjoined (s ++ [c]) := by
  rw [EndsUnjoined, List.getLast?_append, List.getLast?_singleton, Option.some_or]
  rintro ⟨⟩
  exact absurd h (by decide)

theorem dropEndWhile_prefix
    (p : Char → Bool) (s : List Char) :
    Text.dropEndWhile p s <+: s := by
  rw [Text.dropEndWhile, ← List.reverse_suffix, List.reverse_reverse]
  exact List.dropWhile_suffix p

/-- The words of a line take no more cells than the line. -/
theorem sum_cellCount_wordsWithBlanks_le
    {read : List Char} {blanksBegun : Bool}
    (h : blanksBegun = true → ∃ (b : Char) (r : List Char), read = b :: r ∧
      Text.isBlank b = true) (s : List Char) :
    ((wordsWithBlanks read blanksBegun s).map cellCount).sum ≤
      cellCount (read.reverse ++ s) := by
  induction s generalizing read blanksBegun with
  | nil => simp [wordsWithBlanks]
  | cons c s ih =>
      have hmoved : ∀ s : List Char, read.reverse ++ c :: s =
          (c :: read).reverse ++ s := by simp
      rw [wordsWithBlanks]
      split
      · rename_i hblank
        rw [hmoved]
        exact ih fun _ => ⟨c, read, rfl, hblank⟩
      split
      · rename_i hbegun
        -- the word ends in a blank, so the next one is counted as if it stood first
        obtain ⟨b, r, rfl, hb⟩ := h hbegun
        have hnext : ((wordsWithBlanks [c] false s).map cellCount).sum ≤
            cellCount (c :: s) := ih (by simp)
        have hends : EndsUnjoined (b :: r).reverse := by
          rw [List.reverse_cons]
          exact endsUnjoined_of_isBlank hb
        rw [List.map_cons, List.sum_cons]
        exact (Nat.add_le_add_left hnext _).trans (cellCount_add_le hends _)
      · rw [hmoved]
        exact ih (by simp)

/-- A line that is not too long is not broken. -/
theorem breaks_of_fits
    {width taken : Nat} {words : List (List Char)}
    (h : taken + (words.map cellCount).sum ≤ width) (overflow : Overflow) (start : Nat) :
    breaks width overflow start taken words = [] := by
  induction words generalizing taken start with
  | nil => rfl
  | cons w words ih =>
      rw [List.map_cons, List.sum_cons] at h
      obtain ⟨rest, hw⟩ := dropEndWhile_prefix Text.isBlank w
      have hneed : cellCount (Text.dropEndWhile Text.isBlank w) ≤ cellCount w :=
        (cellCount_le_append _ rest).trans (by rw [hw])
      simp only [breaks]
      rw [if_pos (by omega)]
      exact ih (by omega) _

end Words

end Report
end HdlLint
