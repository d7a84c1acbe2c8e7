import HdlLint.Proofs.Diagnostic.LineGrammar

/-!
# Behind the path of a diagnostic line

What follows the colon of the line number is read without looking back:

* the column is taken whenever blanks, digits and a colon stand there and some character
  other than a line feed follows (`ColumnAt`);
* the message is the text up to the next line feed after blanks, or, where only blanks are
  left, the last of them that is no line feed (`IsMessage`).

`columnAndMessage?_eq_some` and `ending?_eq_some_iff` state this for the readers.
`ending?_isSome_iff` says behind which dots a path can end.
-/

namespace HdlLint
namespace DiagnosticLine

open Text

/-- Whether a column with these digits is taken at the beginning of a text, and what it
leaves. -/
def ColumnAt (tail digits remainder : List Char) : Prop :=
  ∃ blanks : List Char,
    tail = blanks ++ (digits ++ ':' :: remainder) ∧
    (∀ c ∈ blanks, isAsciiBlank c = true) ∧
    IsRun isAsciiDigit digits ∧
    ∃ c ∈ remainder, c ≠ '\n'

/-- What is read as the message of a remainder. -/
def IsMessage (remainder message : List Char) : Prop :=
  ((∃ c ∈ remainder, isAsciiBlank c = false) →
    message = (remainder.dropWhile isAsciiBlank).takeWhile (· ≠ '\n')) ∧
  ((∀ c ∈ remainder, isAsciiBlank c = true) →
    ∃ (before after : List Char) (c : Char),
      remainder = before ++ c :: after ∧
      c ≠ '\n' ∧ (∀ x ∈ after, x = '\n') ∧ message = [c])

theorem isAsciiBlank_of_isAsciiDigit
    {c : Char}
    (hc : isAsciiDigit c = true) :
    isAsciiBlank c = false := by
  simp only [isAsciiDigit, Bool.and_eq_true, decide_eq_true_eq] at hc
  simp only [isAsciiBlank, Bool.or_eq_false_iff, Bool.and_eq_false_iff,
    decide_eq_false_iff_not]
  omega

/-- A text that begins with digits does not begin with a blank. -/
theorem not_isAsciiBlank_head?_digits
    {digits : List Char}
    (h : IsRun isAsciiDigit digits) (r : List Char) :
    ∀ c ∈ (digits ++ r).head?, isAsciiBlank c = false := by
  obtain ⟨d, w, rfl⟩ := List.exists_cons_of_ne_nil h.1
  exact not_head?_cons (isAsciiBlank_of_isAsciiDigit (h.2 d List.mem_cons_self)) (w ++ r)

theorem isAsciiBlank_newline :
    isAsciiBlank '\n' = true := by
  decide

section Message

variable {s m : List Char}

/-- There is a message exactly where some character is no line feed. -/
theorem message?_isSome_iff :
    (message? s).isSome = true ↔ ∃ c ∈ s, c ≠ '\n' := by
  unfold message?
  split
  · simp [List.find?_isSome]
  · rename_i r hne
    simp only [Option.isSome_some, true_iff]
    have hvisible : ¬ ∀ c ∈ s, isAsciiBlank c = true := by
      intro hall
      exact hne (List.dropWhile_eq_nil_iff.mpr hall)
    push Not at hvisible
    obtain ⟨c, hc, hblank⟩ := hvisible
    refine ⟨c, hc, ?_⟩
    rintro rfl
    exact hblank isAsciiBlank_newline

/-- The last character of a text that is no line feed. -/
theorem find?_reverse_eq_some
    {c : Char}
    (h : s.reverse.find? (· ≠ '\n') = some c) :
    ∃ before after : List Char,
      s = before ++ c :: after ∧ c ≠ '\n' ∧ ∀ x ∈ after, x = '\n' := by
  obtain ⟨hc, pre, suf, hsplit, hpre⟩ := List.find?_eq_some_iff_append.mp h
  refine ⟨suf.reverse, pre.reverse, ?_, by simpa using hc, ?_⟩
  · have hrev := congrArg List.reverse hsplit
    simpa using hrev
  · intro x hx
    have hnot := hpre x (List.mem_reverse.mp hx)
    simpa using hnot

theorem isMessage_of_message?
    (h : message? s = some m) :
    IsMessage s m := by
  unfold message? at h
  split at h
  · rename_i hnil
    have hblank := List.dropWhile_eq_nil_iff.mp hnil
    obtain ⟨c, hc, rfl⟩ := Option.map_eq_some_iff.mp h
    refine ⟨?_, fun _ => ?_⟩
    · rintro ⟨x, hx, hnot⟩
      rw [hblank x hx] at hnot
      cases hnot
    · obtain ⟨before, after, hs, hne, hafter⟩ := find?_reverse_eq_some hc
      exact ⟨before, after, c, hs, hne, hafter, rfl⟩
  · rename_i r hne
    obtain rfl := Option.some.inj h
    refine ⟨fun _ => rfl, fun hall => ?_⟩
    exact absurd (List.dropWhile_eq_nil_iff.mpr hall) hne

/-- A message that neither begins with a blank nor holds a line feed is read whole. -/
theorem message?_of_blanks
    {blanks : List Char}
    (hblanks : ∀ c ∈ blanks, isAsciiBlank c = true)
    (hne : m ≠ [])
    (hstart : ∀ c ∈ m.head?, isAsciiBlank c = false)
    (hline : '\n' ∉ m) :
    message? (blanks ++ m) = some m := by
  have hall : m.takeWhile (· ≠ '\n') = m := by
    refine List.takeWhile_eq_self_iff.mpr ?_
    intro c hc
    simp only [decide_eq_true_eq]
    rintro rfl
    exact hline hc
  unfold message?
  rw [dropWhile_run hblanks hstart]
  cases m with
  | nil =>
      exact absurd rfl hne
  | cons c m =>
      exact congrArg some hall

end Message

section Column

variable {s digits r : List Char}

theorem column?_eq_some_iff :
    column? s = some (digits, r)
      ↔
    ∃ blanks : List Char,
      s = blanks ++ (digits ++ ':' :: r) ∧
      (∀ c ∈ blanks, isAsciiBlank c = true) ∧
      IsRun isAsciiDigit digits := by
  unfold column?
  constructor
  · intro h
    obtain ⟨⟨run, rest⟩, hrun, h⟩ := Option.bind_eq_some_iff.mp h
    obtain ⟨rest', hcolon, h⟩ := Option.bind_eq_some_iff.mp h
    obtain ⟨rfl, rfl⟩ := Prod.mk.inj (Option.some.inj h)
    obtain rfl := afterColon?_eq_some_iff.mp hcolon
    obtain ⟨hs, hdigits, -⟩ := takeRun?_eq_some_iff.mp hrun
    refine ⟨s.takeWhile isAsciiBlank, ?_, fun c hc => List.mem_takeWhile_imp hc, hdigits⟩
    rw [← hs, List.takeWhile_append_dropWhile]
  · rintro ⟨blanks, rfl, hblanks, hdigits⟩
    have hdrop :
        (blanks ++ (digits ++ ':' :: r)).dropWhile isAsciiBlank =
          digits ++ ':' :: r := by
      exact dropWhile_run hblanks (not_isAsciiBlank_head?_digits hdigits _)
    have hrun :
        takeRun? isAsciiDigit (digits ++ ':' :: r) =
          some (digits, ':' :: r) :=
      takeRun?_of_stop hdigits (by decide) r
    rw [hdrop, hrun]
    rfl

end Column

/-- How the column and the message of a tail are chosen. -/
theorem columnAndMessage?_eq_some
    {s m : List Char} {column : Option (List Char)}
    (h : columnAndMessage? s = some (column, m)) :
    ∃ remainder : List Char,
      message? remainder = some m ∧
      (∀ digits ∈ column, ColumnAt s digits remainder) ∧
      (column = none → remainder = s ∧ ∀ digits r, ¬ ColumnAt s digits r) := by
  unfold columnAndMessage? at h
  rcases Option.or_eq_some_iff.mp h with hwith | ⟨hwithout, hmap⟩
  · obtain ⟨⟨digits, r⟩, hcolumn, hwith⟩ := Option.bind_eq_some_iff.mp hwith
    obtain ⟨m', hm, hwith⟩ := Option.bind_eq_some_iff.mp hwith
    obtain ⟨rfl, rfl⟩ := Prod.mk.inj (Option.some.inj hwith)
    obtain ⟨blanks, hs, hblanks, hdigits⟩ := column?_eq_some_iff.mp hcolumn
    have hvisible := message?_isSome_iff.mp (Option.isSome_of_mem hm)
    refine ⟨r, hm, ?_, by simp⟩
    intro digits' hd
    obtain rfl := Option.mem_some.mp hd
    exact ⟨blanks, hs, hblanks, hdigits, hvisible⟩
  · obtain ⟨m', hm, heq⟩ := Option.map_eq_some_iff.mp hmap
    obtain ⟨rfl, rfl⟩ := Prod.mk.inj heq
    refine ⟨s, hm, by simp, fun _ => ⟨rfl, ?_⟩⟩
    rintro digits r ⟨blanks, hs, hblanks, hdigits, hvisible⟩
    obtain ⟨m'', hm''⟩ := Option.isSome_iff_exists.mp (message?_isSome_iff.mpr hvisible)
    have hcolumn := column?_eq_some_iff.mpr ⟨blanks, hs, hblanks, hdigits⟩
    rw [hcolumn] at hwithout
    simp [hm''] at hwithout

/-- A tail can be read exactly when some character of it is no line feed. -/
theorem columnAndMessage?_isSome_iff
    {s : List Char} :
    (columnAndMessage? s).isSome = true ↔ ∃ c ∈ s, c ≠ '\n' := by
  constructor
  · intro h
    obtain ⟨⟨column, m⟩, hread⟩ := Option.isSome_iff_exists.mp h
    obtain ⟨r, hm, hsome, hnone⟩ := columnAndMessage?_eq_some hread
    obtain ⟨c, hc, hne⟩ := message?_isSome_iff.mp (Option.isSome_of_mem hm)
    cases column with
    | none =>
        obtain ⟨rfl, -⟩ := hnone rfl
        exact ⟨c, hc, hne⟩
    | some digits =>
        obtain ⟨blanks, rfl, -⟩ := hsome digits rfl
        exact ⟨c, by simp [hc], hne⟩
  · intro h
    have hm := message?_isSome_iff.mpr h
    unfold columnAndMessage?
    simp [hm]

theorem columnAndMessage?_of_columnAt
    {s digits r m : List Char}
    (h : ColumnAt s digits r)
    (hm : message? r = some m) :
    columnAndMessage? s = some (some digits, m) := by
  obtain ⟨blanks, hs, hblanks, hdigits, -⟩ := h
  have hcolumn := column?_eq_some_iff.mpr ⟨blanks, hs, hblanks, hdigits⟩
  unfold columnAndMessage?
  simp [hcolumn, hm]

theorem columnAndMessage?_of_not_columnAt
    {s m : List Char}
    (h : ∀ digits r : List Char, ¬ ColumnAt s digits r)
    (hm : message? s = some m) :
    columnAndMessage? s = some (none, m) := by
  cases hs : columnAndMessage? s with
  | none =>
      have hsome :=
        columnAndMessage?_isSome_iff.mpr
          (message?_isSome_iff.mp (Option.isSome_of_mem hm))
      rw [hs] at hsome
      cases hsome
  | some found =>
      obtain ⟨column, m'⟩ := found
      obtain ⟨r, hr, hcolumn, hnone⟩ := columnAndMessage?_eq_some hs
      cases column with
      | some digits =>
          exact absurd (hcolumn digits rfl) (h digits r)
      | none =>
          obtain ⟨rfl, -⟩ := hnone rfl
          rw [hm] at hr
          obtain rfl := Option.some.inj hr
          rfl

/-- An ending is read exactly when the runs of letters and digits behind a dot are whole
and a tail follows. -/
theorem ending?_eq_some_iff
    {s : List Char} {e : Ending} :
    ending? s = some e
      ↔
    ∃ tail : List Char,
      s = e.extension ++ ':' :: (e.line ++ ':' :: tail) ∧
      IsRun isAsciiLetter e.extension ∧
      IsRun isAsciiDigit e.line ∧
      columnAndMessage? tail = some (e.column, e.message) := by
  unfold ending?
  constructor
  · intro h
    obtain ⟨⟨extension, r₁⟩, hext, h⟩ := Option.bind_eq_some_iff.mp h
    obtain ⟨r₂, hcolon, h⟩ := Option.bind_eq_some_iff.mp h
    obtain ⟨⟨line, r₃⟩, hline, h⟩ := Option.bind_eq_some_iff.mp h
    obtain ⟨tail, hcolon', h⟩ := Option.bind_eq_some_iff.mp h
    obtain ⟨⟨column, message⟩, htail, h⟩ := Option.bind_eq_some_iff.mp h
    obtain rfl := Option.some.inj h
    obtain rfl := afterColon?_eq_some_iff.mp hcolon
    obtain rfl := afterColon?_eq_some_iff.mp hcolon'
    obtain ⟨rfl, hextension, -⟩ := takeRun?_eq_some_iff.mp hext
    obtain ⟨rfl, hdigits, -⟩ := takeRun?_eq_some_iff.mp hline
    exact ⟨tail, rfl, hextension, hdigits, htail⟩
  · rintro ⟨tail, rfl, hextension, hdigits, htail⟩
    have hext :
        takeRun? isAsciiLetter (e.extension ++ ':' :: (e.line ++ ':' :: tail)) =
          some (e.extension, ':' :: (e.line ++ ':' :: tail)) :=
      takeRun?_of_stop hextension (by decide) _
    have hline :
        takeRun? isAsciiDigit (e.line ++ ':' :: tail) =
          some (e.line, ':' :: tail) :=
      takeRun?_of_stop hdigits (by decide) tail
    rw [hext]
    simp [afterColon?, hline, htail]

/-- The dots behind which a path can end. -/
theorem ending?_isSome_iff
    {s : List Char} :
    (ending? s).isSome = true
      ↔
    ∃ extension line tail : List Char,
      s = extension ++ ':' :: (line ++ ':' :: tail) ∧
      IsRun isAsciiLetter extension ∧
      IsRun isAsciiDigit line ∧
      ∃ c ∈ tail, c ≠ '\n' := by
  constructor
  · intro h
    obtain ⟨e, he⟩ := Option.isSome_iff_exists.mp h
    obtain ⟨tail, hs, hext, hline, htail⟩ := ending?_eq_some_iff.mp he
    have hvisible := columnAndMessage?_isSome_iff.mp (Option.isSome_of_mem htail)
    exact ⟨e.extension, e.line, tail, hs, hext, hline, hvisible⟩
  · rintro ⟨extension, line, tail, hs, hext, hline, hvisible⟩
    obtain ⟨⟨column, message⟩, htail⟩ :=
      Option.isSome_iff_exists.mp (columnAndMessage?_isSome_iff.mpr hvisible)
    have he : ending? s = some ⟨extension, line, column, message⟩ :=
      ending?_eq_some_iff.mpr ⟨tail, hs, hext, hline, htail⟩
    rw [he]
    rfl

end DiagnosticLine
end HdlLint
