import HdlLint.Text.LowerCase
import Mathlib

/-!
# Texts in lower case

Names of variables are compared in lower case.  No capital of ASCII is left then, and the
only other character whose small form is a letter of ASCII is the Kelvin sign.  So a text
without capitals that becomes a name without the letter `k` is this name.

* `not_isUpper_of_mem_lowerChars`: no capital is left.
* `eq_of_lowerChars_eq`: a text without capitals is known by its lower case.
-/

namespace HdlLint
namespace Text

section Characters

/-- The small forms of a run are characters above ASCII, but for that of the Kelvin
sign. -/
theorem smallForms_above :
    ∀ r ∈ smallForms, r.last < 0x80 ∨
      (r.first = 0x212A ∧ r.last = 0x212A ∧ r.distance = -8383) ∨
      (0x80 ≤ r.first + r.distance ∧ r.last + r.distance < 0xD800) ∨
      (0xDFFF < r.first + r.distance ∧ r.last + r.distance < 0x110000) := by
  decide +kernel

theorem not_isUpper_of_le
    {c : Char}
    (h : 0x80 ≤ c.toNat) :
    c.isUpper = false := by
  simp [Char.isUpper, UInt32.le_iff_toNat_le]
  omega

theorem lowerChar_above
    {c : Char}
    (hc : 0x80 ≤ c.toNat) :
    0x80 ≤ (lowerChar c).toNat ∨ lowerChar c = 'k' := by
  rw [lowerChar, if_neg (by omega)]
  cases hfind : smallForms.find? fun r => r.contains c.toNat with
  | none =>
      exact Or.inl hc
  | some r =>
      have hmem := List.mem_of_find?_eq_some hfind
      have hcontains := List.find?_some hfind
      simp only [LetterRun.contains, Bool.and_eq_true, decide_eq_true_eq] at hcontains
      obtain ⟨⟨hfirst, hlast⟩, -⟩ := hcontains
      rcases smallForms_above r hmem with
        hascii | ⟨hf, hl, hd⟩ | ⟨hlow, hhigh⟩ | ⟨hlow, hhigh⟩
      · omega
      · have hkelvin : c.toNat = 0x212A := by omega
        simp only [hkelvin, hd]
        exact Or.inr rfl
      · have hvalid : (c.toNat + r.distance).toNat.isValidChar := Or.inl (by omega)
        simp only [Char.toNat_ofNat, if_pos hvalid]
        omega
      · have hvalid : (c.toNat + r.distance).toNat.isValidChar :=
          Or.inr ⟨by omega, by omega⟩
        simp only [Char.toNat_ofNat, if_pos hvalid]
        omega

theorem not_isUpper_lowerChar
    (c : Char) :
    (lowerChar c).isUpper = false := by
  by_cases hc : c.toNat < 0x80
  · rw [lowerChar_of_lt hc]
    exact Char.isUpper_toLower_eq_false c
  · rcases lowerChar_above (Nat.le_of_not_lt hc) with habove | hk
    · exact not_isUpper_of_le habove
    · rw [hk]
      rfl

/-- A character whose small form is one of ASCII, and neither it nor the letter `k`, is a
capital. -/
theorem eq_of_lowerChar_eq
    {c d : Char}
    (hc : c.isUpper = false)
    (hd : d.toNat < 0x80)
    (hk : d ≠ 'k')
    (h : lowerChar c = d) :
    c = d := by
  by_cases hascii : c.toNat < 0x80
  · rw [lowerChar_of_lt hascii, Char.toLower_eq_of_not_isUpper (by simp [hc])] at h
    exact h
  · rcases lowerChar_above (Nat.le_of_not_lt hascii) with habove | hkelvin
    · rw [h] at habove
      omega
    · exact absurd (h.symm.trans hkelvin) hk

end Characters

section Texts

variable {flag : Bool} {s t : List Char}

theorem not_isUpper_of_mem_lowerChars
    {c : Char}
    (h : c ∈ lowerChars flag s) :
    c.isUpper = false := by
  induction s generalizing flag with
  | nil =>
      cases h
  | cons a rest ih =>
      rw [lowerChars, List.mem_append] at h
      rcases h with h | h
      · rw [lowerForms] at h
        split at h
        · rcases List.mem_cons.mp h with rfl | h
          · decide
          · rcases List.mem_singleton.mp h with rfl
            decide
        · split at h
          · obtain rfl := List.mem_singleton.mp h
            split <;> decide
          · obtain rfl := List.mem_singleton.mp h
            exact not_isUpper_lowerChar a
      · exact ih h

/-- A text without capitals that becomes a name of ASCII without the letter `k` is this
name. -/
theorem eq_of_lowerChars_eq
    (hs : ∀ c ∈ s, c.isUpper = false)
    (ht : ∀ d ∈ t, d.toNat < 0x80 ∧ d ≠ 'k')
    (h : lowerChars flag s = t) :
    s = t := by
  induction s generalizing flag t with
  | nil =>
      exact h
  | cons c rest ih =>
      rw [List.forall_mem_cons] at hs
      rw [lowerChars, lowerForms] at h
      split at h
      · subst h
        exact absurd (ht '\u0307' (by simp)).1 (by decide)
      · split at h
        · subst h
          rw [List.singleton_append, List.forall_mem_cons] at ht
          have habove := ht.1.1
          split at habove <;> exact absurd habove (by decide)
        · subst h
          rw [List.singleton_append, List.forall_mem_cons] at ht
          rw [List.singleton_append, ← eq_of_lowerChar_eq hs.1 ht.1.1 ht.1.2 rfl]
          exact congrArg (c :: ·) (ih hs.2 ht.2 rfl)

end Texts

end Text
end HdlLint
