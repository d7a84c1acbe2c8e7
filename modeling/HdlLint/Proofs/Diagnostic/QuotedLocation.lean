import HdlLint.Proofs.Diagnostic.LeftmostLine

/-!
# Locations that a message quotes

A message follows the location it is about.  It is read whole, and behind that location,
unless it quotes another one: a path in it, with a line number and anything behind that,
is a longer path for the reader.

* `Heading.exists_dot`: a dot behind the path of a line stands in its message.
* `Heading.parseLine_line`: a message without a location is read as it was written.
* `Heading.parseLine_quoting`: one with a location moves the line to a longer path, and
  loses what stands before its end.
* `same_location_iff`: two messages behind one heading.
-/

namespace HdlLint
namespace DiagnosticLine

open Text

/-- A text quotes a location: somewhere in it stand a dot, letters, a colon, digits, a
colon and anything behind that. -/
def QuotesLocation (s : List Char) : Prop :=
  ∃ before extension digits after : List Char,
    IsRun isAsciiLetter extension ∧ IsRun isAsciiDigit digits ∧ after ≠ [] ∧
    s = before ++ '.' :: (extension ++ ':' :: (digits ++ ':' :: after))

/-- What stands before a message: the first word, the code, the path, the line and the
column. -/
structure Heading where
  keyword : String
  code : Option String
  path : String
  lineText : String
  columnText : Option String
  keyword_isRun : IsRun isWordChar keyword.toList
  code_isRun : ∀ c ∈ code, IsRun isCodeChar c.toList
  path_isPath : IsPath path.toList
  path_start : ∀ c ∈ path.toList.head?, isAsciiBlank c = false
  line_isRun : IsRun isAsciiDigit lineText.toList
  column_isRun : ∀ c ∈ columnText, IsRun isAsciiDigit c.toList

/-- A message that is one line and begins with neither a blank nor a digit. -/
structure Message where
  text : String
  nonempty : text ≠ ""
  line : '\n' ∉ text.toList
  start : ∀ c ∈ text.toList.head?, isAsciiBlank c = false ∧ isAsciiDigit c = false

/-- A character that stands in no prefix of a text stands behind it. -/
theorem append_eq_append_cons
    {u v before after : List Char} {c : Char}
    (h : u ++ v = before ++ c :: after)
    (hc : c ∉ u) :
    ∃ between : List Char, before = u ++ between ∧ v = between ++ c :: after := by
  rcases List.append_eq_append_iff.mp h with
    ⟨between, hbefore, hv⟩ | ⟨between, hu, hafter⟩
  · exact ⟨between, hbefore, hv⟩
  · cases between with
    | nil =>
        exact ⟨[], by simp [hu], hafter.symm⟩
    | cons x between =>
        obtain ⟨rfl, -⟩ := List.cons.inj hafter
        exact absurd (by simp [hu]) hc

namespace Heading

/-- The code behind its dash. -/
def codePart (h : Heading) : String :=
  match h.code with
  | some code => "-" ++ code
  | none => ""

/-- The column before its colon. -/
def columnPart (h : Heading) : String :=
  match h.columnText with
  | some column => column ++ ":"
  | none => ""

/-- The line with a message. -/
def lineOf (h : Heading) (message : String) : String :=
  "%" ++ h.keyword ++ h.codePart ++ ": " ++ h.path ++ ":" ++ h.lineText ++ ":" ++
    h.columnPart ++ " " ++ message

/-- The fields of that line, as they were written. -/
def fields (h : Heading) (message : String) : LineFields where
  keyword := h.keyword
  code := h.code
  path := h.path
  lineText := h.lineText
  columnText := h.columnText
  message := message

/-- What stands between the colon of the line number and a message. -/
def margin (h : Heading) : List Char :=
  h.columnPart.toList ++ [' ']

/-- What follows the colon of the first word and the blank behind it. -/
def body (h : Heading) (message : List Char) : List Char :=
  h.path.toList ++ ':' :: (h.lineText.toList ++ ':' :: (h.margin ++ message))

section Layout

theorem toList_lineOf
    (h : Heading) (message : String) :
    (h.lineOf message).toList =
      '%' :: (h.keyword.toList ++
        (codeText (h.code.map String.toList) ++ ':' :: ' ' ::
          h.body message.toList)) := by
  have hcode : codeText (h.code.map String.toList) = h.codePart.toList := by
    unfold codePart
    cases h.code <;> simp [codeText]
  rw [hcode]
  simp [lineOf, body, margin]

theorem header
    (h : Heading) (message : List Char) :
    Header
      (h.keyword.toList ++
        (codeText (h.code.map String.toList) ++ ':' :: ' ' :: h.body message))
      h.keyword.toList (h.code.map String.toList) (' ' :: h.body message) := by
  refine ⟨rfl, h.keyword_isRun, ?_⟩
  intro c hc
  obtain ⟨code, hcode, rfl⟩ := Option.map_eq_some_iff.mp hc
  exact h.code_isRun code hcode

/-- The blank before the path is no part of it. -/
theorem dropWhile_body
    (h : Heading) (message : List Char) :
    (' ' :: h.body message).dropWhile isAsciiBlank = h.body message := by
  obtain ⟨-, stem, extension, hpath, -⟩ := h.path_isPath
  have hstart : ∀ c ∈ (h.body message).head?, isAsciiBlank c = false := by
    intro c hc
    refine h.path_start c ?_
    rw [hpath]
    cases stem <;> simpa [body, hpath] using hc
  exact dropWhile_run (List.forall_mem_singleton.mpr (by decide)) hstart

theorem not_mem_margin
    (h : Heading) {c : Char}
    (hdigit : isAsciiDigit c = false)
    (hother : c ∉ [':', ' ']) :
    c ∉ h.margin := by
  unfold margin columnPart
  cases hcolumn : h.columnText with
  | none =>
      simpa using List.not_mem_of_not_mem_cons hother
  | some column =>
      have hdigits := (h.column_isRun column hcolumn).not_mem hdigit
      simpa [hdigits] using hother

/-- A dot behind that of the path of a line stands in its message. -/
theorem exists_dot
    (h : Heading) {stem extension message stem' r' : List Char}
    (hpath : h.path.toList = stem ++ '.' :: extension)
    (hextension : IsRun isAsciiLetter extension)
    (hbody : h.body message = stem' ++ '.' :: r')
    (hlater : stem.length < stem'.length) :
    ∃ between : List Char,
      message = between ++ '.' :: r' ∧ h.path.toList.length < stem'.length := by
  let mid : List Char := extension ++ ':' :: (h.lineText.toList ++ ':' :: h.margin)
  have hmid : '.' ∉ mid := by
    have hletters := hextension.not_mem (c := '.') (by decide)
    have hdigits := h.line_isRun.not_mem (c := '.') (by decide)
    have hmargin := h.not_mem_margin (c := '.') (by decide) (by decide)
    simp [mid, hletters, hdigits, hmargin]
  have hsplit : stem ++ '.' :: (mid ++ message) = stem' ++ '.' :: r' := by
    rw [← hbody]
    simp [body, hpath, mid]
  obtain ⟨between, rfl⟩ : stem ++ ['.'] <+: stem' := by
    have hpre : stem ++ ['.'] <+: stem' ++ '.' :: r' :=
      ⟨mid ++ message, by simp [← hsplit]⟩
    refine List.prefix_of_prefix_length_le hpre (List.prefix_append _ _) ?_
    simpa using hlater
  have hrest : mid ++ message = between ++ '.' :: r' := by
    simpa using hsplit
  obtain ⟨inside, rfl, hmessage⟩ := append_eq_append_cons hrest hmid
  refine ⟨inside, hmessage, ?_⟩
  simp [hpath, mid]

/-- Conversely a message may begin a longer path. -/
theorem body_eq
    (h : Heading) (before r : List Char) :
    h.body (before ++ '.' :: r) =
      (h.path.toList ++ ':' :: (h.lineText.toList ++ ':' :: (h.margin ++ before))) ++
        '.' :: r := by
  simp [body]

end Layout

section Reading

variable {message : List Char}

/-- A message that begins with neither a blank nor a digit is read behind the column that
was written. -/
theorem columnAndMessage?_margin
    (h : Heading) (m : Message) :
    columnAndMessage? (h.margin ++ m.text.toList) =
      some (h.columnText.map String.toList, m.text.toList) := by
  have hblank : ∀ c ∈ [' '], isAsciiBlank c = true :=
    List.forall_mem_singleton.mpr (by decide)
  have hne : m.text.toList ≠ [] := fun hnil => m.nonempty (String.toList_inj.mp hnil)
  have hmessage : message? (' ' :: m.text.toList) = some m.text.toList :=
    message?_of_blanks hblank hne (fun c hc => (m.start c hc).1) m.line
  unfold margin columnPart
  cases hcolumn : h.columnText with
  | some column =>
      have hat : ColumnAt (column.toList ++ ':' :: ' ' :: m.text.toList) column.toList
          (' ' :: m.text.toList) :=
        ⟨[], rfl, by simp, h.column_isRun column hcolumn, ' ',
          List.mem_cons_self, by decide⟩
      simpa using columnAndMessage?_of_columnAt hat hmessage
  | none =>
      have hnot : ∀ digits r : List Char, ¬ ColumnAt (' ' :: m.text.toList) digits r := by
        rintro digits r ⟨blanks, hs, hblanks, hdigits, -⟩
        have hdrop := congrArg (List.dropWhile isAsciiBlank) hs
        rw [dropWhile_run hblanks (not_isAsciiBlank_head?_digits hdigits _),
          show ' ' :: m.text.toList = [' '] ++ m.text.toList from rfl,
          dropWhile_run hblank fun c hc => (m.start c hc).1] at hdrop
        obtain ⟨c, w, rfl⟩ := List.exists_cons_of_ne_nil hdigits.1
        have hc := (m.start c (by rw [hdrop]; rfl)).2
        rw [hdigits.2 c List.mem_cons_self] at hc
        cases hc
      simpa using columnAndMessage?_of_not_columnAt hnot hmessage

/-- Fields that are read behind the percent sign of a line are those of the line. -/
theorem parseLine_of_longestPath?
    (h : Heading) {message : String} {path : List Char} {e : Ending}
    (hlongest : longestPath? [] (h.body message.toList) = some (path, e)) :
    parseLine (h.lineOf message) = .matched {
      keyword := h.keyword
      code := h.code
      path := String.ofList path
      lineText := String.ofList e.line
      columnText := e.column.map String.ofList
      message := String.ofList e.message } := by
  have hfields : fields? (h.lineOf message).toList.tail = some {
      keyword := String.ofList h.keyword.toList
      code := (h.code.map String.toList).map String.ofList
      path := String.ofList path
      lineText := String.ofList e.line
      columnText := e.column.map String.ofList
      message := String.ofList e.message } := by
    rw [toList_lineOf, List.tail_cons]
    refine fields?_eq_some_iff.mpr ⟨_, _, path, _, e, h.header message.toList, ?_, rfl⟩
    rw [h.dropWhile_body, hlongest]
  have hsame : (h.code.map String.toList).map String.ofList = h.code := by
    simp [Function.comp_def]
  rw [toList_lineOf, List.tail_cons, hsame, String.ofList_toList] at hfields
  unfold parseLine
  rw [toList_lineOf, search?_cons, if_pos rfl, hfields]
  rfl

/-- A message without a location in it is read as it was written, and so is what stands
before it. -/
theorem parseLine_line
    (h : Heading) {message : String}
    (hread : columnAndMessage? (h.margin ++ message.toList) =
      some (h.columnText.map String.toList, message.toList))
    (hquotes : ¬ QuotesLocation message.toList) :
    parseLine (h.lineOf message) = .matched (h.fields message) := by
  obtain ⟨hline, stem, extension, hpath, hextension⟩ := h.path_isPath
  let e : Ending :=
    ⟨extension, h.lineText.toList, h.columnText.map String.toList, message.toList⟩
  let r : List Char :=
    extension ++ ':' :: (h.lineText.toList ++ ':' :: (h.margin ++ message.toList))
  have he : ending? r = some e :=
    ending?_eq_some_iff.mpr ⟨h.margin ++ message.toList, rfl,
      hextension, h.line_isRun, hread⟩
  have hend : CanEnd (h.body message.toList) stem r := by
    refine ⟨by simp [body, hpath, r], fun hmem => hline (by simp [hpath, hmem]),
      Option.isSome_of_mem he⟩
  have hlast : ∀ stem' r' : List Char, CanEnd (h.body message.toList) stem' r' →
      stem'.length ≤ stem.length := by
    rintro stem' r' ⟨hbody, -, hread'⟩
    by_contra hlater
    obtain ⟨before, hmessage, -⟩ := h.exists_dot hpath hextension hbody (by omega)
    obtain ⟨extension', digits, after, rfl, hext, hdig, c, hc, -⟩ :=
      ending?_isSome_iff.mp hread'
    exact hquotes ⟨before, extension', digits, after, hext, hdig,
      List.ne_nil_of_mem hc, hmessage⟩
  have hlongest : longestPath? [] (h.body message.toList) = some (h.path.toList, e) := by
    rw [longestPath?_of_last [] hend hlast he, hpath]
    rfl
  rw [h.parseLine_of_longestPath? hlongest]
  simp [fields, e, Function.comp_def]

end Reading

section Quoting

variable {s m : List Char}

theorem message?_length_le
    (h : message? s = some m) :
    m.length ≤ s.length := by
  unfold message? at h
  split at h
  · obtain ⟨c, hc, rfl⟩ := Option.map_eq_some_iff.mp h
    have hmem := List.mem_of_find?_eq_some hc
    exact List.length_pos_of_mem (List.mem_reverse.mp hmem)
  · obtain rfl := Option.some.inj h
    exact (List.takeWhile_sublist _).length_le.trans (List.dropWhile_sublist _).length_le

theorem columnAndMessage?_length_le
    {column : Option (List Char)}
    (h : columnAndMessage? s = some (column, m)) :
    m.length ≤ s.length := by
  obtain ⟨remainder, hm, hcolumn, hnone⟩ := columnAndMessage?_eq_some h
  have hle := message?_length_le hm
  cases column with
  | none =>
      obtain ⟨rfl, -⟩ := hnone rfl
      exact hle
  | some digits =>
      obtain ⟨blanks, rfl, -⟩ := hcolumn digits rfl
      simp only [List.length_append, List.length_cons]
      omega

/-- A message with a location in it is not read as it was written: the path is longer, and
the message is shorter. -/
theorem parseLine_quoting
    (h : Heading) {message : String}
    (hline : '\n' ∉ message.toList)
    (hquotes : QuotesLocation message.toList) :
    ∃ f : LineFields,
      parseLine (h.lineOf message) = .matched f ∧
      f.keyword = h.keyword ∧ f.code = h.code ∧
      h.path.length < f.path.length ∧ f.message.length < message.length := by
  obtain ⟨hpathLine, stem, extension, hpath, hextension⟩ := h.path_isPath
  obtain ⟨before, extension', digits, after, hext, hdig, hne, hmessage⟩ := hquotes
  obtain ⟨c, w, rfl⟩ := List.exists_cons_of_ne_nil hne
  -- the dot of that location can be the last one of a path
  have hend : CanEnd (h.body message.toList)
      (h.path.toList ++ ':' :: (h.lineText.toList ++ ':' :: (h.margin ++ before)))
      (extension' ++ ':' :: (digits ++ ':' :: c :: w)) := by
    refine ⟨by rw [hmessage, h.body_eq], ?_, ?_⟩
    · have hdigits := h.line_isRun.not_mem (c := '\n') (by decide)
      have hmargin := h.not_mem_margin (c := '\n') (by decide) (by decide)
      have hbefore : '\n' ∉ before := fun hmem => hline (by simp [hmessage, hmem])
      simp [hpathLine, hdigits, hmargin, hbefore]
    · refine ending?_isSome_iff.mpr ⟨extension', digits, c :: w, rfl, hext, hdig, c,
        List.mem_cons_self, ?_⟩
      rintro rfl
      exact hline (by simp [hmessage])
  cases hlongest : longestPath? [] (h.body message.toList) with
  | none =>
      exact absurd hend (longestPath?_eq_none_iff.mp hlongest _ _)
  | some found =>
      obtain ⟨path, e⟩ := found
      obtain ⟨stem', r', ⟨hbody, -⟩, he, hfound, hlast⟩ := longestPath?_eq_some hlongest
      have hlater : stem.length < stem'.length := by
        have hle := hlast _ _ hend
        simp only [hpath, List.length_append, List.length_cons] at hle
        omega
      obtain ⟨between, hdot, hlonger⟩ := h.exists_dot hpath hextension hbody hlater
      obtain ⟨tail, rfl, -, -, htail⟩ := ending?_eq_some_iff.mp he
      have hshorter := columnAndMessage?_length_le htail
      refine ⟨_, h.parseLine_of_longestPath? hlongest, rfl, rfl, ?_, ?_⟩
      · rw [hfound, String.length_ofList, ← String.length_toList]
        simp only [List.reverse_nil, List.nil_append, List.length_append]
        omega
      · rw [String.length_ofList, ← String.length_toList, hdot]
        simp
        omega

end Quoting

end Heading

section TwoMessages

/-- Two messages behind one heading give one location, and are read as they were written,
exactly when neither quotes a location.  The location is that of the heading then; a
message that quotes one moves its line to a longer path and loses its beginning. -/
theorem same_location_iff
    (h : Heading) (m₁ m₂ : Message) :
    ((∃ f : LineFields,
        parseLine (h.lineOf m₁.text) = .matched { f with message := m₁.text } ∧
        parseLine (h.lineOf m₂.text) = .matched { f with message := m₂.text }) ↔
      ¬ QuotesLocation m₁.text.toList ∧ ¬ QuotesLocation m₂.text.toList) ∧
    (¬ QuotesLocation m₁.text.toList →
      parseLine (h.lineOf m₁.text) = .matched (h.fields m₁.text)) ∧
    (QuotesLocation m₁.text.toList →
      ∃ f : LineFields,
        parseLine (h.lineOf m₁.text) = .matched f ∧
          f.keyword = h.keyword ∧ f.code = h.code ∧
        h.path.length < f.path.length ∧ f.message.length < m₁.text.length) := by
  have hwritten : ∀ m : Message, ¬ QuotesLocation m.text.toList →
      parseLine (h.lineOf m.text) = .matched (h.fields m.text) :=
    fun m => h.parseLine_line (h.columnAndMessage?_margin m)
  have hkept : ∀ (m : Message) (f : LineFields),
      parseLine (h.lineOf m.text) = .matched { f with message := m.text } →
      ¬ QuotesLocation m.text.toList := by
    intro m f hread hquotes
    obtain ⟨f', hread', -, -, -, hshorter⟩ := h.parseLine_quoting m.line hquotes
    rw [hread] at hread'
    obtain rfl := ParsedLine.matched.inj hread'
    exact Nat.lt_irrefl _ hshorter
  refine ⟨⟨?_, ?_⟩, hwritten m₁, h.parseLine_quoting m₁.line⟩
  · rintro ⟨f, hfirst, hsecond⟩
    exact ⟨hkept m₁ f hfirst, hkept m₂ f hsecond⟩
  · rintro ⟨hfirst, hsecond⟩
    exact ⟨h.fields m₁.text, hwritten m₁ hfirst, hwritten m₂ hsecond⟩

/-- A message about a second place: the line is moved there, with the same message as one
without it. -/
theorem located_by_message :
    ∃ (h : Heading) (m₁ m₂ : Message),
      h.lineOf m₁.text = "%Error: a.v:1: see b.v:2: here" ∧
      h.lineOf m₂.text = "%Error: a.v:1: here" ∧
      parseLine (h.lineOf m₁.text) =
        .matched ⟨"Error", none, "a.v:1: see b.v", "2", none, "here"⟩ ∧
      parseLine (h.lineOf m₂.text) =
        .matched ⟨"Error", none, "a.v", "1", none, "here"⟩ := by
  let h : Heading := {
    keyword := "Error"
    code := none
    path := "a.v"
    lineText := "1"
    columnText := none
    keyword_isRun := by decide +kernel
    code_isRun := by simp
    path_isPath := ⟨by decide +kernel, ['a'], ['v'], by decide +kernel, by decide⟩
    path_start := not_head? (c := 'a') (by decide +kernel) (by decide)
    line_isRun := by decide +kernel
    column_isRun := by simp }
  let m₁ : Message := {
    text := "see b.v:2: here"
    nonempty := by decide
    line := by decide +kernel
    start := by rintro c ⟨⟩; decide }
  let m₂ : Message := {
    text := "here"
    nonempty := by decide
    line := by decide +kernel
    start := by rintro c ⟨⟩; decide }
  exact ⟨h, m₁,
    m₂, by decide +kernel, by decide +kernel, by decide +kernel, by decide +kernel⟩

end TwoMessages

end DiagnosticLine
end HdlLint
