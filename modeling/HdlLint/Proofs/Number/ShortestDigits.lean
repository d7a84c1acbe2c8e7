import HdlLint.Number.Shortest
import Mathlib.Tactic

/-!
# The shortest digits of a number are not zero

The digits that are written for a number read back as it, and only zero reads back from no
digits but zeros.  So the digits of any other number begin with one that is not zero.

* `readsBack_of_candidate?`: a candidate reads back.
* `shortest_digits`: the digits of a number that is not zero.
-/

namespace HdlLint
namespace Binary64

section Shortest

theorem dropZeros_ne_zero
    {fuel n : Nat}
    (h : n ≠ 0) :
    dropZeros fuel n ≠ 0 := by
  induction fuel generalizing n with
  | zero => exact h
  | succ fuel ih =>
      rw [dropZeros]
      split
      · rename_i htens
        simp only [Bool.and_eq_true, decide_eq_true_eq] at htens
        exact ih (by omega)
      · exact h

/-- Only zero reads back from no digits. -/
theorem readsBack_zero
    {x : Binary64} {scale : Int}
    (h : readsBack x 0 scale = true) :
    x = .zero := by
  unfold readsBack decimalRatio at h
  by_cases hscale : 0 ≤ scale <;> simp [hscale, ofRatio] at h <;> exact h.symm

theorem readsBack_of_candidate?
    {x : Binary64} {num den count n : Nat} {first : Int}
    (h : candidate? x num den first count = some n) :
    readsBack x n (first - count + 1) = true := by
  unfold candidate? at h
  simp only at h
  split at h
  · rename_i hlow _
    cases h
    exact hlow
  · rename_i _ hhigh
    cases h
    exact hhigh
  · cases h
  · rename_i hlow hhigh
    split at h
    · cases h
      exact hlow
    · cases h
      exact hhigh
    · split_ifs at h <;> cases h
      · exact hlow
      · exact hhigh

/-- The digits of a number that is not zero are not zero either. -/
theorem shortest_digits
    {m : Nat} {e : Int}
    (h : m ≠ 0) :
    (shortest m e).digits ≠ 0 ∨ shortest m e = ⟨0, 0⟩ := by
  unfold shortest
  simp only
  split
  · rename_i n count hfound
    obtain ⟨k, -, hk⟩ := List.exists_of_findSome?_eq_some hfound
    obtain ⟨n', hn', heq⟩ := Option.map_eq_some_iff.mp hk
    cases heq
    refine Or.inl (dropZeros_ne_zero ?_)
    rintro rfl
    have hzero := readsBack_zero (readsBack_of_candidate? hn')
    cases hzero
    exact h rfl
  · exact Or.inr rfl

end Shortest

end Binary64
end HdlLint
