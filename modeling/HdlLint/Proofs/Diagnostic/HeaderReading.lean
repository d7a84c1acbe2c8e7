import HdlLint.Proofs.Diagnostic.LongestPath

/-!
# The fields behind a percent sign

A diagnostic line is read in two parts: its header up to the first colon, of which there
is at most one reading (`Header.unique`), and the longest path behind it.

* `Derivation.canEnd`: the last dot of every derivation's path is one that the search for
  the longest path sees.
* `derivation_of_canEnd`: every such dot belongs to a derivation.
* `fields?_isSome_iff`: hence fields are read behind a percent sign exactly when a
  derivation begins there.
-/

namespace HdlLint
namespace DiagnosticLine

open Text

/-- The first word, the code and the colon that ends them. -/
def Header
    (s keyword : List Char) (code : Option (List Char)) (after : List Char) : Prop :=
  s = keyword ++ (codeText code ++ ':' :: after) ∧
    IsRun isWordChar keyword ∧ ∀ c ∈ code, IsRun isCodeChar c

section HeaderLemmas

variable {s keyword after : List Char} {code : Option (List Char)}

theorem not_isWordChar_head?
    {c : Char}
    (hc : c ∈ (codeText code ++ ':' :: after).head?) :
    isWordChar c = false := by
  cases code with
  | none =>
      exact not_head?_cons (by decide) after c hc
  | some w =>
      exact not_head?_cons (by decide) (w ++ ':' :: after) c hc

theorem header_iff :
    Header s keyword code after
      ↔
    ∃ r : List Char,
      takeRun? isWordChar s = some (keyword, r) ∧
      takeCode? r = some (code, ':' :: after) := by
  constructor
  · rintro ⟨rfl, hkeyword, hcode⟩
    refine ⟨codeText code ++ ':' :: after, ?_, ?_⟩
    · exact takeRun?_eq_some_iff.mpr ⟨rfl, hkeyword, fun c hc => not_isWordChar_head? hc⟩
    · exact takeCode?_colon_iff.mpr ⟨rfl, hcode⟩
  · rintro ⟨r, hrun, hread⟩
    obtain ⟨rfl, hkeyword, -⟩ := takeRun?_eq_some_iff.mp hrun
    obtain ⟨rfl, hcode⟩ := takeCode?_colon_iff.mp hread
    exact ⟨rfl, hkeyword, hcode⟩

theorem Header.unique
    {keyword' after' : List Char} {code' : Option (List Char)}
    (h : Header s keyword code after)
    (h' : Header s keyword' code' after') :
    after = after' := by
  obtain ⟨r, hrun, hcode⟩ := header_iff.mp h
  obtain ⟨r', hrun', hcode'⟩ := header_iff.mp h'
  rw [hrun] at hrun'
  obtain ⟨-, rfl⟩ := Prod.mk.inj (Option.some.inj hrun')
  rw [hcode] at hcode'
  have hcolon := (Prod.mk.inj (Option.some.inj hcode')).2
  exact (List.cons.inj hcolon).2

/-- The first word is the whole run behind the percent sign. -/
theorem Header.keyword_eq
    (h : Header s keyword code after) :
    keyword = s.takeWhile isWordChar := by
  obtain ⟨rfl, hkeyword, -⟩ := h
  exact (takeWhile_run hkeyword.2 (fun c hc => not_isWordChar_head? hc)).symm

/-- The code is the whole run behind the dash. -/
theorem Header.code_eq
    {c : List Char}
    (h : Header s keyword (some c) after) :
    c = (s.dropWhile isWordChar).tail.takeWhile isCodeChar := by
  obtain ⟨rfl, hkeyword, hcode⟩ := h
  rw [dropWhile_run hkeyword.2 (fun c hc => not_isWordChar_head? hc)]
  exact (takeWhile_run (hcode c rfl).2 (not_head?_cons (by decide) after)).symm

end HeaderLemmas

/-- The fields that follow a percent sign: a header and a longest path. -/
theorem fields?_eq_some_iff
    {s : List Char} {f : LineFields} :
    fields? s = some f
      ↔
    ∃ (keyword after path : List Char) (code : Option (List Char)) (e : Ending),
      Header s keyword code after ∧
      longestPath? [] (after.dropWhile isAsciiBlank) = some (path, e) ∧
      f = {
        keyword := String.ofList keyword
        code := code.map String.ofList
        path := String.ofList path
        lineText := String.ofList e.line
        columnText := e.column.map String.ofList
        message := String.ofList e.message } := by
  unfold fields?
  constructor
  · intro h
    obtain ⟨⟨keyword, r₁⟩, hkeyword, h₁⟩ := Option.bind_eq_some_iff.mp h
    obtain ⟨⟨code, r₂⟩, hcode, h₂⟩ := Option.bind_eq_some_iff.mp h₁
    obtain ⟨after, hcolon, h₃⟩ := Option.bind_eq_some_iff.mp h₂
    obtain ⟨⟨path, e⟩, hpath, h₄⟩ := Option.bind_eq_some_iff.mp h₃
    obtain rfl := afterColon?_eq_some_iff.mp hcolon
    have hheader := header_iff.mpr ⟨r₁, hkeyword, hcode⟩
    exact ⟨keyword, after, path, code, e, hheader, hpath, (Option.some.inj h₄).symm⟩
  · rintro ⟨keyword, after, path, code, e, hheader, hpath, rfl⟩
    obtain ⟨r, hkeyword, hcode⟩ := header_iff.mp hheader
    rw [hkeyword]
    simp [hcode, afterColon?, hpath]

theorem isAsciiBlank_dot :
    isAsciiBlank '.' = false := by
  decide

/-- Every derivation is seen by the search for the longest path. -/
theorem Derivation.canEnd
    (d : Derivation) (post : List Char) :
    ∃ stem extension r : List Char,
      CanEnd ((d.body ++ post).dropWhile isAsciiBlank) stem r ∧
      IsRun isAsciiLetter extension ∧
      extension <+: r ∧
      d.gap ++ d.path =
        (d.body ++ post).takeWhile isAsciiBlank ++ (stem ++ '.' :: extension) := by
  obtain ⟨hline, stem, extension, hpath, hextension⟩ := d.path_isPath
  let r := extension ++ ':' :: (d.line ++ ':' :: (d.tail ++ post))
  have hbody : d.body ++ post = d.gap ++ stem ++ '.' :: r := by
    simp [Derivation.body, hpath, r]
  have hdot : ∀ c ∈ ('.' :: r).head?, isAsciiBlank c = false :=
    not_head?_cons isAsciiBlank_dot r
  have hdrop :
      (d.body ++ post).dropWhile isAsciiBlank =
        stem.dropWhile isAsciiBlank ++ '.' :: r := by
    rw [hbody, List.append_assoc, List.dropWhile_append_of_pos d.gap_blank,
      dropWhile_append_stop stem hdot]
  have htake :
      (d.body ++ post).takeWhile isAsciiBlank ++ stem.dropWhile isAsciiBlank =
        d.gap ++ stem := by
    have hwhole := List.takeWhile_append_dropWhile
        (p := isAsciiBlank) (l := d.body ++ post)
    rw [hdrop, hbody, ← List.append_assoc] at hwhole
    rw [hbody]
    exact List.append_cancel_right hwhole
  refine ⟨stem.dropWhile isAsciiBlank, extension, r, ⟨hdrop, ?_, ?_⟩, hextension, ?_, ?_⟩
  · intro hmem
    have hstem := (List.dropWhile_sublist isAsciiBlank).subset hmem
    exact hline (by simp [hpath, hstem])
  · obtain ⟨c, hc, hne⟩ := d.message_visible
    have htail : c ∈ d.tail ++ post := by
      simp [Derivation.tail, hc]
    exact ending?_isSome_iff.mpr
      ⟨extension, d.line, d.tail ++ post, rfl, hextension, d.line_run, c, htail, hne⟩
  · exact List.prefix_append _ _
  · rw [← List.append_assoc, htake, hpath, List.append_assoc]

/-- A derivation that begins a text spells its header. -/
theorem Derivation.header
    {d : Derivation} {s : List Char}
    (h : d.text <+: '%' :: s) :
    ∃ post : List Char, Header s d.keyword d.code (d.body ++ post) := by
  obtain ⟨post, hpost⟩ := h
  refine ⟨post, ?_, d.keyword_run, d.code_run⟩
  have htail := congrArg List.tail hpost
  simp only [Derivation.text, List.cons_append, List.tail_cons,
    List.append_assoc] at htail
  exact htail.symm

/-- The derivation that is read: the whole run of blanks goes to the gap, and the column
to the message. -/
theorem derivation_of_canEnd
    {s keyword after stem r : List Char} {code : Option (List Char)}
    (hheader : Header s keyword code after)
    (hend : CanEnd (after.dropWhile isAsciiBlank) stem r) :
    ∃ (d : Derivation) (extension : List Char),
      d.text = '%' :: s ∧
      d.gap = after.takeWhile isAsciiBlank ∧
      d.path = stem ++ '.' :: extension ∧
      extension = r.takeWhile isAsciiLetter := by
  obtain ⟨rfl, hkeyword, hcode⟩ := hheader
  obtain ⟨hafter, hline, hsome⟩ := hend
  obtain ⟨extension, line, tail, hr, hextension, hdigits, hvisible⟩ :=
    ending?_isSome_iff.mp hsome
  have hpath : IsPath (stem ++ '.' :: extension) := by
    refine ⟨?_, stem, extension, rfl, hextension⟩
    simp only [List.mem_append, List.mem_cons, not_or]
    refine ⟨hline, by decide, ?_⟩
    intro hmem
    have hletter := hextension.2 '\n' hmem
    revert hletter
    decide
  let d : Derivation := {
    keyword := keyword
    code := code
    gap := after.takeWhile isAsciiBlank
    path := stem ++ '.' :: extension
    line := line
    column := none
    indent := []
    message := tail
    keyword_run := hkeyword
    code_run := hcode
    gap_blank := fun c hc => List.mem_takeWhile_imp hc
    path_isPath := hpath
    line_run := hdigits
    column_run := by simp
    indent_blank := by simp
    message_visible := hvisible }
  refine ⟨d, extension, ?_, rfl, rfl, ?_⟩
  · have hwhole := List.takeWhile_append_dropWhile (p := isAsciiBlank) (l := after)
    rw [hafter, hr] at hwhole
    conv_rhs => rw [← hwhole]
    simp [d, Derivation.text, Derivation.body, Derivation.tail, columnText]
  · rw [hr]
    exact (takeWhile_run hextension.2 (not_head?_cons (by decide) _)).symm

/-- Fields are read behind a percent sign exactly when a derivation begins there. -/
theorem fields?_isSome_iff
    {s : List Char} :
    (fields? s).isSome = true ↔ ∃ d : Derivation, d.text <+: '%' :: s := by
  constructor
  · intro h
    obtain ⟨f, hf⟩ := Option.isSome_iff_exists.mp h
    obtain ⟨keyword, after, path, code, e, hheader, hpath, -⟩ := fields?_eq_some_iff.mp hf
    obtain ⟨stem, r, hend, -⟩ := longestPath?_eq_some hpath
    obtain ⟨d, -, htext, -⟩ := derivation_of_canEnd hheader hend
    exact ⟨d, by rw [htext]⟩
  · rintro ⟨d, hd⟩
    obtain ⟨post, hheader⟩ := d.header hd
    obtain ⟨stem, extension, r, hend, -⟩ := d.canEnd post
    cases hpath : longestPath? [] ((d.body ++ post).dropWhile isAsciiBlank) with
    | none =>
        exact absurd hend (longestPath?_eq_none_iff.mp hpath stem r)
    | some found =>
        have hf := fields?_eq_some_iff.mpr ⟨_, _, found.1, _,
            found.2, hheader, hpath, rfl⟩
        exact Option.isSome_of_mem hf

end DiagnosticLine
end HdlLint
