import HdlLint.Diagnostic.Line
import HdlLint.Proofs.Text.StrippedTexts
import Mathlib.Data.List.TakeWhile
import Mathlib.Tactic

/-!
# The grammar of diagnostic lines

A diagnostic line is derived by

    '%' word ['-' CODE] ':' ws* path ':' digits ':' [ws* digits ':'] ws* message

where a path holds no line feed and ends in a dot and letters, and a message holds a
character other than a line feed.  `Derivation` is one way to derive such a line: blanks
may be counted to the field before them or to the field behind them, so that one text can
have many derivations.

The second half of this module says which texts the readers of single fields accept, one
equivalence for each reader.  Runs are read to their end, so every reader agrees with the
grammar as soon as the character behind the run is outside its class.
-/

namespace HdlLint
namespace DiagnosticLine

open Text

/-- A part of a text that is not empty and holds only characters of one class. -/
def IsRun (p : Char → Bool) (s : List Char) : Prop :=
  s ≠ [] ∧ ∀ c ∈ s, p c = true

instance (p : Char → Bool) (s : List Char) : Decidable (IsRun p s) :=
  decidable_of_iff (s.isEmpty = false ∧ s.all p = true) (by simp [IsRun])

/-- A path: no line feed, and a dot and letters at the end. -/
def IsPath (path : List Char) : Prop :=
  '\n' ∉ path ∧
    ∃ stem extension : List Char,
      path = stem ++ '.' :: extension ∧ IsRun isAsciiLetter extension

/-- A code as it is written behind the first word. -/
def codeText : Option (List Char) → List Char
  | none => []
  | some code => '-' :: code

/-- A column as it is written: the blanks before it, its digits and a colon. -/
def columnText : Option (List Char × List Char) → List Char
  | none => []
  | some (blanks, digits) => blanks ++ (digits ++ [':'])

/-- One way to derive a diagnostic line. -/
structure Derivation where
  keyword : List Char
  code : Option (List Char)
  /-- The blanks before the path. -/
  gap : List Char
  path : List Char
  line : List Char
  /-- The blanks before the column, and its digits. -/
  column : Option (List Char × List Char)
  /-- The blanks before the message. -/
  indent : List Char
  message : List Char
  keyword_run : IsRun isWordChar keyword
  code_run : ∀ c ∈ code, IsRun isCodeChar c
  gap_blank : ∀ c ∈ gap, isAsciiBlank c = true
  path_isPath : IsPath path
  line_run : IsRun isAsciiDigit line
  column_run : ∀ c ∈ column, (∀ x ∈ c.1, isAsciiBlank x = true) ∧ IsRun isAsciiDigit c.2
  indent_blank : ∀ c ∈ indent, isAsciiBlank c = true
  message_visible : ∃ c ∈ message, c ≠ '\n'

namespace Derivation

/-- What stands behind the colon of the line number. -/
def tail (d : Derivation) : List Char :=
  columnText d.column ++ (d.indent ++ d.message)

/-- What stands behind the colon of the first word. -/
def body (d : Derivation) : List Char :=
  d.gap ++ (d.path ++ ':' :: (d.line ++ ':' :: d.tail))

/-- The line that is derived. -/
def text (d : Derivation) : List Char :=
  '%' :: (d.keyword ++ (codeText d.code ++ ':' :: d.body))

end Derivation

section Runs

variable {p : Char → Bool} {run rest : List Char}

theorem not_head?
    {s : List Char} {c : Char}
    (hs : s.head? = some c)
    (hc : p c = false) :
    ∀ x ∈ s.head?, p x = false := by
  intro x hx
  rw [hs] at hx
  obtain rfl := Option.mem_some.mp hx
  exact hc

theorem not_head?_cons
    {c : Char}
    (hc : p c = false) (s : List Char) :
    ∀ x ∈ (c :: s).head?, p x = false :=
  not_head? rfl hc

/-- A run ends where a character of another class stands. -/
theorem takeWhile_run
    (hrun : ∀ c ∈ run, p c = true)
    (hrest : ∀ c ∈ rest.head?, p c = false) :
    (run ++ rest).takeWhile p = run := by
  rw [List.takeWhile_append_of_pos hrun]
  cases rest with
  | nil =>
      simp
  | cons c r =>
      have hc : p c = false := hrest c rfl
      simp [hc]

/-- Nothing is dropped behind a character of another class. -/
theorem dropWhile_append_stop
    (s : List Char)
    (hrest : ∀ c ∈ rest.head?, p c = false) :
    (s ++ rest).dropWhile p = s.dropWhile p ++ rest := by
  induction s with
  | nil =>
      cases rest with
      | nil =>
          rfl
      | cons c r =>
          have hc : p c = false := hrest c rfl
          simp [hc]
  | cons c s ih =>
      cases hc : p c <;> simp [hc, ih]

theorem dropWhile_run
    (hrun : ∀ c ∈ run, p c = true)
    (hrest : ∀ c ∈ rest.head?, p c = false) :
    (run ++ rest).dropWhile p = rest := by
  rw [dropWhile_append_stop run hrest, List.dropWhile_eq_nil_iff.mpr hrun]
  rfl

/-- A run is read exactly when it is the whole run of its class. -/
theorem takeRun?_eq_some_iff
    {s : List Char} :
    takeRun? p s = some (run, rest)
      ↔
    s = run ++ rest ∧ IsRun p run ∧ ∀ c ∈ rest.head?, p c = false := by
  constructor
  · intro h
    cases hs : s.takeWhile p with
    | nil =>
        simp [takeRun?, hs] at h
    | cons c w =>
        simp only [takeRun?, hs, Option.some.injEq, Prod.mk.injEq] at h
        obtain ⟨rfl, rfl⟩ := h
        refine ⟨?_, ⟨by simp, ?_⟩, fun x hx => head?_dropWhile hx⟩
        · rw [← hs, List.takeWhile_append_dropWhile]
        · intro x hx
          rw [← hs] at hx
          exact List.mem_takeWhile_imp hx
  · rintro ⟨rfl, ⟨hne, hrun⟩, hrest⟩
    unfold takeRun?
    rw [takeWhile_run hrun hrest, dropWhile_run hrun hrest]
    cases run with
    | nil =>
        exact absurd rfl hne
    | cons c w =>
        rfl

/-- A run is read up to a character of another class. -/
theorem takeRun?_of_stop
    {c : Char}
    (hrun : IsRun p run)
    (hc : p c = false) (s : List Char) :
    takeRun? p (run ++ c :: s) = some (run, c :: s) :=
  takeRun?_eq_some_iff.mpr ⟨rfl, hrun, not_head?_cons hc s⟩

theorem IsRun.not_mem
    {c : Char}
    (h : IsRun p run)
    (hc : p c = false) :
    c ∉ run := by
  intro hmem
  rw [h.2 c hmem] at hc
  cases hc

end Runs

theorem afterColon?_eq_some_iff
    {s r : List Char} :
    afterColon? s = some r ↔ s = ':' :: r := by
  constructor
  · intro h
    unfold afterColon? at h
    split at h
    · obtain rfl := Option.some.inj h
      rfl
    · cases h
  · rintro rfl
    rfl

/-- A code is read together with the colon that ends it. -/
theorem takeCode?_colon_iff
    {s r : List Char} {code : Option (List Char)} :
    takeCode? s = some (code, ':' :: r)
      ↔
    s = codeText code ++ ':' :: r ∧ ∀ c ∈ code, IsRun isCodeChar c := by
  constructor
  · intro h
    unfold takeCode? at h
    split at h
    · obtain ⟨⟨c, rest⟩, hrun, heq⟩ := Option.map_eq_some_iff.mp h
      obtain ⟨rfl, rfl⟩ := Prod.mk.inj heq
      obtain ⟨rfl, hc, -⟩ := takeRun?_eq_some_iff.mp hrun
      refine ⟨rfl, ?_⟩
      rintro x hx
      obtain rfl := Option.mem_some.mp hx
      exact hc
    · obtain ⟨rfl, rfl⟩ := Prod.mk.inj (Option.some.inj h)
      exact ⟨rfl, by simp⟩
  · rintro ⟨rfl, hcode⟩
    cases code with
    | none =>
        rfl
    | some c =>
        have hrun :
            takeRun? isCodeChar (c ++ ':' :: r) = some (c, ':' :: r) :=
          takeRun?_of_stop (hcode c rfl) (by decide) r
        simp [codeText, takeCode?, hrun]

end DiagnosticLine
end HdlLint
