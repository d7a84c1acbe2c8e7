import HdlLint.Proofs.Diagnostic.HeaderReading

/-!
# The leftmost diagnostic line of a text

`parseLine` is a search for the leftmost percent sign that begins a diagnostic line,
followed by one deterministic reading.  `IsReading` says what the fields are in terms of
the text and of the derivations that begin at that percent sign; it does not mention the
functions that read them.

* `isReading_of_fields?`: the fields behind one percent sign.
* `parseLine_leftmost_longest`: the whole search.
* `parseLine_blank_message`: where only blanks are left, the message is not what removing
  blanks would leave.
-/

namespace HdlLint
namespace DiagnosticLine

open Text

/-- What the fields of a line say about the text from their percent sign on.  `gap` is
what stands before the path, `tail` what follows the colon of the line number, and
`remainder` what the message is taken from. -/
structure IsReading
    (s : List Char) (f : LineFields) (gap tail remainder : List Char) : Prop where
  spelled :
    s = '%' :: (f.keyword.toList ++ (codeText (f.code.map String.toList) ++ ':' ::
      (gap ++ (f.path.toList ++ ':' :: (f.lineText.toList ++ ':' :: tail)))))
  keyword_whole : f.keyword.toList = s.tail.takeWhile isWordChar
  code_whole :
    ∀ code ∈ f.code, code.toList = (s.tail.dropWhile isWordChar).tail.takeWhile isCodeChar
  /-- The path begins at the first character that is no blank. -/
  gap_whole : gap = (gap ++ f.path.toList).takeWhile isAsciiBlank
  path_derived : ∃ d : Derivation, d.text <+: s ∧ d.gap = gap ∧ d.path = f.path.toList
  /-- No derivation from here has a path that ends further right. -/
  path_longest :
    ∀ d : Derivation, d.text <+: s →
      (d.gap ++ d.path).length ≤ (gap ++ f.path.toList).length
  line_run : IsRun isAsciiDigit f.lineText.toList
  line_whole : f.lineText.toList =
    (f.lineText.toList ++ ':' :: tail).takeWhile isAsciiDigit
  column_some : ∀ column ∈ f.columnText, ColumnAt tail column.toList remainder
  column_none :
    f.columnText = none → remainder = tail ∧ ∀ digits r : List Char,
      ¬ ColumnAt tail digits r
  message : IsMessage remainder f.message.toList

section Fields

variable {s : List Char} {f : LineFields}

theorem codeText_ofList
    (code : Option (List Char)) :
    codeText ((code.map String.ofList).map String.toList) = codeText code := by
  cases code <;> simp

/-- A path does not begin with a blank. -/
theorem takeWhile_gap
    {after stem r : List Char}
    (extension : List Char)
    (hend : CanEnd (after.dropWhile isAsciiBlank) stem r) :
    (after.takeWhile isAsciiBlank ++ (stem ++ '.' :: extension)).takeWhile isAsciiBlank =
      after.takeWhile isAsciiBlank := by
  refine takeWhile_run (fun c hc => List.mem_takeWhile_imp hc) ?_
  intro c hc
  cases stem with
  | nil =>
      exact not_head?_cons isAsciiBlank_dot extension c hc
  | cons x stem =>
      refine head?_dropWhile (s := after) ?_
      rw [hend.1]
      exact hc

/-- The fields behind a percent sign are the ones that the grammar gives. -/
theorem isReading_of_fields?
    (h : fields? s = some f) :
    ∃ gap tail remainder : List Char, IsReading ('%' :: s) f gap tail remainder := by
  obtain ⟨keyword, after, path, code, e, hheader, hpath, rfl⟩ := fields?_eq_some_iff.mp h
  obtain ⟨stem, r, hend, he, rfl, hlast⟩ := longestPath?_eq_some hpath
  obtain ⟨tail, hr, hextension, hline, htail⟩ := ending?_eq_some_iff.mp he
  obtain ⟨remainder, hm, hsome, hnone⟩ := columnAndMessage?_eq_some htail
  have hafter :
      after = after.takeWhile isAsciiBlank ++
        (stem ++ '.' :: e.extension ++ ':' :: (e.line ++ ':' :: tail)) := by
    conv_lhs => rw [← List.takeWhile_append_dropWhile (p := isAsciiBlank) (l := after)]
    rw [hend.1, hr]
    simp
  refine ⟨after.takeWhile isAsciiBlank, tail, remainder, ?_⟩
  constructor
  case spelled =>
    simp only [String.toList_ofList, codeText_ofList, List.reverse_nil, List.nil_append]
    rw [← hafter]
    exact congrArg ('%' :: ·) hheader.1
  case keyword_whole =>
    simpa using hheader.keyword_eq
  case code_whole =>
    intro c hc
    obtain ⟨w, rfl, rfl⟩ := Option.map_eq_some_iff.mp hc
    simpa using hheader.code_eq
  case gap_whole =>
    simpa using (takeWhile_gap e.extension hend).symm
  case path_derived =>
    obtain ⟨d, extension, htext, hgap, hdpath, rfl⟩ := derivation_of_canEnd hheader hend
    refine ⟨d, by rw [htext], hgap, ?_⟩
    have hwhole : r.takeWhile isAsciiLetter = e.extension := by
      rw [hr]
      exact takeWhile_run hextension.2 (not_head?_cons (by decide) _)
    simpa [hwhole] using hdpath
  case path_longest =>
    intro d hd
    obtain ⟨post, hheader'⟩ := d.header hd
    obtain rfl := hheader.unique hheader'
    obtain ⟨stem', extension', r', hend', hextension', hpre, hcat⟩ := d.canEnd post
    have hle := hlast stem' r' hend'
    have hsplit := hend'.1.symm.trans hend.1
    have hlen := path_length_le hsplit hr hextension'.2 hpre hle
    rw [hcat]
    simp only [String.toList_ofList, List.length_append, List.reverse_nil,
      List.nil_append] at hlen ⊢
    omega
  case line_run =>
    simpa using hline
  case line_whole =>
    rw [String.toList_ofList]
    exact (takeWhile_run hline.2 (not_head?_cons (by decide) tail)).symm
  case column_some =>
    intro column hc
    obtain ⟨digits, hdigits, rfl⟩ := Option.map_eq_some_iff.mp hc
    rw [String.toList_ofList]
    exact hsome digits hdigits
  case column_none =>
    intro hc
    exact hnone (Option.map_eq_none_iff.mp hc)
  case message =>
    rw [String.toList_ofList]
    exact isMessage_of_message? hm

end Fields

section Search

variable {s : List Char}

/-- Where a percent sign stands: at the beginning of the text, or behind its first
character. -/
theorem cons_eq_append_percent_iff
    {c : Char} {pre r : List Char} :
    c :: s = pre ++ '%' :: r
      ↔
    (pre = [] ∧ c = '%' ∧ s = r) ∨
    (∃ pre' : List Char, pre = c :: pre' ∧ s = pre' ++ '%' :: r) := by
  constructor
  · intro h
    cases pre with
    | nil =>
        obtain ⟨rfl, rfl⟩ := List.cons.inj h
        exact Or.inl ⟨rfl, rfl, rfl⟩
    | cons x pre' =>
        obtain ⟨rfl, rfl⟩ := List.cons.inj h
        exact Or.inr ⟨pre', rfl, rfl⟩
  · rintro (⟨rfl, rfl, rfl⟩ | ⟨pre', rfl, rfl⟩) <;> rfl

theorem search?_cons
    (c : Char) (s : List Char) :
    search? (c :: s) = (if c = '%' then fields? s else none).or (search? s) := by
  rw [search?]
  split
  · cases fields? s <;> rfl
  · rfl

theorem search?_eq_none_iff :
    search? s = none
      ↔
    ∀ pre r : List Char, s = pre ++ '%' :: r → fields? r = none := by
  induction s with
  | nil =>
      simp [search?]
  | cons c s ih =>
      rw [search?_cons, Option.or_eq_none_iff, ih]
      simp only [cons_eq_append_percent_iff]
      constructor
      · rintro ⟨hhere, hlater⟩ pre r (⟨-, rfl, rfl⟩ | ⟨pre', -, hs⟩)
        · simpa using hhere
        · exact hlater pre' r hs
      · intro h
        refine ⟨?_, fun pre r hs => h (c :: pre) r (Or.inr ⟨pre, rfl, hs⟩)⟩
        split
        · rename_i hc
          exact h [] s (Or.inl ⟨rfl, hc, rfl⟩)
        · rfl

/-- The percent sign that is found is the leftmost one behind which fields can be read. -/
theorem search?_eq_some
    {f : LineFields}
    (h : search? s = some f) :
    ∃ pre r : List Char,
      s = pre ++ '%' :: r ∧
      fields? r = some f ∧
      ∀ pre' r' : List Char, s = pre' ++ '%' :: r' → pre'.length < pre.length →
        fields? r' = none := by
  induction s with
  | nil =>
      simp [search?] at h
  | cons c s ih =>
      rw [search?_cons] at h
      rcases Option.or_eq_some_iff.mp h with hhere | ⟨hnone, hlater⟩
      · split at hhere
        · rename_i hc
          subst hc
          exact ⟨[], s, rfl, hhere, by simp⟩
        · cases hhere
      · obtain ⟨pre, r, hs, hf, hleft⟩ := ih hlater
        refine ⟨c :: pre, r, by simp [hs], hf, ?_⟩
        intro pre' r' hs' hlt
        rcases cons_eq_append_percent_iff.mp hs' with ⟨-, rfl, rfl⟩ | ⟨pre'', rfl, hs''⟩
        · simpa using hnone
        · exact hleft pre'' r' hs'' (by simpa using hlt)

end Search

theorem Derivation.prefix_percent
    {d : Derivation} {s : List Char}
    (h : d.text <+: s) :
    ∃ r : List Char, s = '%' :: r := by
  obtain ⟨post, rfl⟩ := h
  exact ⟨_, rfl⟩

/-- A text holds a derivation exactly when fields are read behind one of its percent
signs. -/
theorem exists_infix_iff
    {s : List Char} :
    (∃ d : Derivation, d.text <:+: s)
      ↔
    ∃ pre r : List Char, s = pre ++ '%' :: r ∧ (fields? r).isSome = true := by
  simp only [fields?_isSome_iff]
  constructor
  · rintro ⟨d, pre, post, rfl⟩
    exact ⟨pre, (d.text ++ post).tail, by simp [Derivation.text], d,
      post, by simp [Derivation.text]⟩
  · rintro ⟨pre, r, rfl, d, post, hpost⟩
    exact ⟨d, pre, post, by rw [List.append_assoc, hpost]⟩

/-- A line is matched exactly when it holds a derivation, and is returned unchanged
otherwise.  The fields are those of the leftmost percent sign at which a derivation
begins. -/
theorem parseLine_leftmost_longest
    (text : String) :
    ((∃ f : LineFields, parseLine text = .matched f) ↔
      ∃ d : Derivation, d.text <:+: text.toList) ∧
    ((¬ ∃ d : Derivation, d.text <:+: text.toList) → parseLine text = .unmatched text) ∧
    ∀ f : LineFields, parseLine text = .matched f →
      ∃ pre s gap tail remainder : List Char,
        text.toList = pre ++ s ∧
        (∃ d : Derivation, d.text <+: s) ∧
        (∀ pre' s' : List Char, text.toList = pre' ++ s' → pre'.length < pre.length →
          ¬ ∃ d : Derivation, d.text <+: s') ∧
        IsReading s f gap tail remainder := by
  have hmatched :
      ∀ f : LineFields, parseLine text = .matched f ↔ search? text.toList = some f := by
    intro f
    unfold parseLine
    cases search? text.toList <;> simp
  have hiff :
      (∃ f : LineFields, parseLine text = .matched f) ↔
        ∃ d : Derivation, d.text <:+: text.toList := by
    simp only [hmatched]
    rw [exists_infix_iff]
    constructor
    · rintro ⟨f, hf⟩
      obtain ⟨pre, r, hs, hr, -⟩ := search?_eq_some hf
      exact ⟨pre, r, hs, Option.isSome_of_mem hr⟩
    · rintro ⟨pre, r, hs, hr⟩
      refine Option.ne_none_iff_exists'.mp ?_
      intro hnone
      rw [search?_eq_none_iff.mp hnone pre r hs] at hr
      cases hr
  refine ⟨hiff, ?_, ?_⟩
  · intro hno
    rw [← hiff] at hno
    unfold parseLine at hno ⊢
    cases hs : search? text.toList with
    | none =>
        rfl
    | some f =>
        exact absurd ⟨f, by rw [hs]⟩ hno
  · intro f hf
    obtain ⟨pre, r, hs, hr, hleft⟩ := search?_eq_some ((hmatched f).mp hf)
    obtain ⟨gap, tail, remainder, hreading⟩ := isReading_of_fields? hr
    refine ⟨pre, '%' :: r, gap, tail, remainder, hs, ?_, ?_, hreading⟩
    · exact fields?_isSome_iff.mp (Option.isSome_of_mem hr)
    · rintro pre' s' hs' hlt ⟨d, hd⟩
      obtain ⟨r', rfl⟩ := d.prefix_percent hd
      have hnone := hleft pre' r' hs' hlt
      have hsome := fields?_isSome_iff.mpr ⟨d, hd⟩
      rw [hnone] at hsome
      cases hsome

/-- A message of one blank is not what is left of any text when its leading blanks are
removed. -/
theorem parseLine_blank_message :
    ∃ f : LineFields,
      parseLine "%Error: a.v:1: " = .matched f ∧
      ∀ remainder : List Char,
        f.message.toList ≠ (remainder.dropWhile isAsciiBlank).takeWhile (· ≠ '\n') := by
  refine ⟨⟨"Error", none, "a.v", "1", none, " "⟩, by decide +kernel, ?_⟩
  intro remainder h
  have hhead : ∀ c ∈ ((remainder.dropWhile isAsciiBlank).takeWhile (· ≠ '\n')).head?,
      isAsciiBlank c = false := by
    intro c hc
    rw [List.head?_takeWhile] at hc
    exact head?_dropWhile (Option.filter_eq_some_iff.mp hc).1
  rw [← h] at hhead
  have hblank := hhead ' ' (by decide +kernel)
  revert hblank
  decide

end DiagnosticLine
end HdlLint
