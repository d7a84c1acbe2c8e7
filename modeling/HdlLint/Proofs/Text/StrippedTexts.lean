import HdlLint.Proofs.Text.DecimalLiteral
import HdlLint.Text.Blank

/-!
# Stripped texts

Stripping a text removes the characters of a class from its two ends, and only these.
Trimming does this for blanks, and nothing is left to be trimmed.

* `exists_runs_around` and `stripWhile_between`: what is removed from the ends of a text,
  and what is left between them.
* `stripped_trim`: what is left of a text.
* `Stripped.trim_eq` and `trim_trim`: a text without blanks at its ends is left as it is.
-/

namespace HdlLint
namespace Text

/-- A text without the blanks at its two ends. -/
structure Stripped (s t : List Char) : Prop where
  exists_ends : ∃ front back : List Char, s = front ++ t ++ back ∧ ∀ c ∈ front ++ back,
    isBlank c = true
  head : ∀ c ∈ t.head?, isBlank c = false
  last : ∀ c ∈ t.getLast?, isBlank c = false

section Ends

variable {p : Char → Bool} {front t back : List Char}

theorem head?_dropWhile
    {s : List Char} {c : Char}
    (hc : c ∈ (s.dropWhile p).head?) :
    p c = false := by
  have h := List.head?_dropWhile_not p s
  rw [Option.mem_def.mp hc] at h
  exact h

/-- A text ends in characters of a class behind what is left without them. -/
theorem exists_run_behind
    (p : Char → Bool) (s : List Char) :
    ∃ back : List Char, s = dropEndWhile p s ++ back ∧ ∀ c ∈ back, p c = true := by
  refine ⟨(s.reverse.takeWhile p).reverse, ?_, ?_⟩
  · rw [dropEndWhile, ← List.reverse_append,
      List.takeWhile_append_dropWhile, List.reverse_reverse]
  · intro c hc
    exact List.mem_takeWhile_imp (List.mem_reverse.mp hc)

/-- Only characters of the class are taken from the two ends. -/
theorem exists_runs_around
    (p : Char → Bool) (s : List Char) :
    ∃ front back : List Char, s = front ++ stripWhile p s ++ back ∧ ∀ c ∈ front ++ back,
      p c = true := by
  obtain ⟨back, hback, hclass⟩ := exists_run_behind p (s.dropWhile p)
  refine ⟨s.takeWhile p, back, ?_, ?_⟩
  · rw [List.append_assoc, stripWhile, ← hback, List.takeWhile_append_dropWhile]
  · intro c hc
    rcases List.mem_append.mp hc with hfront | hback
    · exact List.mem_takeWhile_imp hfront
    · exact hclass c hback

/-- What stands between characters of the class is left if it neither begins nor ends with
one. -/
theorem stripWhile_between
    (hends : ∀ c ∈ front ++ back, p c = true)
    (hne : t ≠ [])
    (hhead : ∀ c ∈ t.head?, p c = false)
    (hlast : ∀ c ∈ t.getLast?, p c = false) :
    stripWhile p (front ++ t ++ back) = t := by
  have hfront : ∀ c ∈ front, p c = true :=
    fun c hc => hends c (List.mem_append_left back hc)
  have hback : ∀ c ∈ back.reverse, p c = true := fun c hc =>
    hends c (List.mem_append_right front (List.mem_reverse.mp hc))
  have hbody : (t ++ back).dropWhile p = t ++ back :=
    dropWhile_of_head (by rwa [List.head?_append_of_ne_nil _ hne])
  have hreverse : t.reverse.dropWhile p = t.reverse :=
    dropWhile_of_head (by rwa [List.head?_reverse])
  rw [stripWhile, dropEndWhile, List.append_assoc,
    List.dropWhile_append_of_pos hfront, hbody,
    List.reverse_append, List.dropWhile_append_of_pos hback,
      hreverse, List.reverse_reverse]

end Ends

theorem stripped_stripWhile
    (s : List Char) :
    Stripped s (stripWhile isBlank s) := by
  obtain ⟨back, hback, -⟩ := exists_run_behind isBlank (s.dropWhile isBlank)
  refine ⟨exists_runs_around isBlank s, ?_, ?_⟩
  · -- what is left begins where the text without its first blanks begins
    intro c hc
    refine head?_dropWhile (s := s) ?_
    rw [hback, ← stripWhile, List.head?_append, Option.mem_def.mp hc]
    rfl
  · intro c hc
    rw [stripWhile, dropEndWhile, List.getLast?_reverse] at hc
    exact head?_dropWhile hc

theorem stripped_trim
    (s : String) :
    Stripped s.toList (trim s).toList := by
  rw [trim, String.toList_ofList]
  exact stripped_stripWhile s.toList

/-- A text without blanks at its ends is left as it is. -/
theorem Stripped.trim_eq
    {s : List Char} {t : String}
    (h : Stripped s t.toList) :
    trim t = t := by
  rw [trim, stripWhile_of_ends h.head h.last, String.ofList_toList]

theorem trim_trim
    (s : String) :
    trim (trim s) = trim s :=
  (stripped_trim s).trim_eq

end Text
end HdlLint
