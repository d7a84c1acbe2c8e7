import HdlLint.Proofs.Report.ShownTables
import HdlLint.Proofs.Report.Tags
import HdlLint.Proofs.Text.DecimalLiteral
import HdlLint.Report.Result

/-!
# Results in words

Whether a result can be said in words depends on the texts that are not the program's own:
the detail of a fault, the path of the document, or the paths, codes and messages of
diagnostics.  They are shown as markup.

* `render_heading`: a heading in a style of the report, and what stands behind it.
* `inWords_of_holdsNoTag`: a result whose texts hold no tags can be said in words.
* `inWords_of_closesFirst`: one with a text whose first tag closes something cannot.
-/

namespace HdlLint

open Report Report.Markup

section Styles

/-- A word that is looked up as it is written, and that can stand in a tag. -/
structure IsStyleWord (w : String) : Prop where
  isTagBody : IsTagBody w.toList
  isName : tagName w.toList = w.toList
  no_parameters : tagParameters w.toList = none
  opens : w.toList.head? ≠ some '/'
  no_action : w.toList.head? ≠ some actionMark
  nonempty : w ≠ ""
  trimmed : Text.trim w = w
  normal : Style.normalize w = .ok w

/-- The styles of the report. -/
def reportStyles : List String := ["red", "green", "yellow", "cyan"]

variable {w heading : String}

theorem isStyleWord_of_mem
    (h : w ∈ reportStyles) :
    IsStyleWord w where
  isTagBody := by
    have hbody : ∀ w ∈ reportStyles, tagBody? (w.toList ++ [']']) =
        some (w.toList, []) := by
      decide +kernel
    exact (tagBody?_eq_some (hbody w h)).1
  isName := by revert w; decide +kernel
  no_parameters := by revert w; decide +kernel
  opens := by revert w; decide +kernel
  no_action := by revert w; decide +kernel
  nonempty := by revert w; decide
  trimmed := by revert w; decide +kernel
  normal := by revert w; decide +kernel

/-- A text of the program in a style of the report. -/
structure IsHeading (w heading : String) : Prop where
  isStyleWord : IsStyleWord w
  holdsNoTag : HoldsNoTag heading.toList
  last_ne : heading.toList.getLast? ≠ some '\\'

theorem isHeading_severity
    (s : Severity) :
    IsHeading (LintResult.severityColor s) s.name where
  isStyleWord := isStyleWord_of_mem (by cases s <;> decide)
  holdsNoTag := by cases s <;> decide +kernel
  last_ne := by cases s <;> decide +kernel

theorem isHeading_failed : IsHeading "red" "Lint failed" where
  isStyleWord := isStyleWord_of_mem (by decide)
  holdsNoTag := by decide +kernel
  last_ne := by decide +kernel

theorem isHeading_nothing : IsHeading "green" "No issues" where
  isStyleWord := isStyleWord_of_mem (by decide)
  holdsNoTag := by decide +kernel
  last_ne := by decide +kernel

theorem IsStyleWord.applyTag_open
    (h : IsStyleWord w) (position : Nat) (opened : List OpenTag) :
    applyTag position opened w.toList = .ok (⟨w, none, position⟩ :: opened, none) := by
  unfold applyTag
  split
  · rename_i name hname
    rw [h.isName] at hname
    exact absurd (by rw [hname]; rfl) h.opens
  · rw [h.isName, String.ofList_toList, h.normal, h.no_parameters]
    rfl

theorem IsStyleWord.applyTag_close
    (h : IsStyleWord w) (position start : Nat) (opened : List OpenTag) :
    applyTag position (⟨w, none, start⟩ :: opened) ('/' :: w.toList) =
      .ok (opened, some ⟨start, position, some w⟩) := by
  have hname : tagName ('/' :: w.toList) = '/' :: w.toList := by
    have hsame := h.isName
    unfold tagName at hsame ⊢
    rw [List.takeWhile_cons, hsame]
    rfl
  have hclosed : closed (⟨w, none, start⟩ :: opened) ('/' :: w.toList) w.toList =
      .ok (⟨w, none, start⟩, opened) := by
    unfold closed
    simp only [String.ofList_toList, h.trimmed, if_neg h.nonempty, h.normal, bind,
      Except.bind, closeNamed?, if_true]
    rfl
  have hspan : (OpenTag.closedSpan position ⟨w, none, start⟩ : Except Crash Span) =
      .ok ⟨start, position, some w⟩ := by
    rw [OpenTag.closedSpan, if_neg h.no_action]
    rfl
  unfold applyTag
  rw [hname]
  simp only [hclosed, bind, Except.bind, hspan]
  rfl

/-- A style of the report that has been checked once is checked again without a crash. -/
theorem IsStyleWord.checkStyle
    (h : IsStyleWord w) :
    Markup.checkStyle ⟨0, 0, some w⟩ = .ok () := by
  have hnormal := h.normal
  unfold Style.normalize at hnormal
  unfold Markup.checkStyle
  simp only
  cases hstyle : Style.ofText? w with
  | error c =>
      rw [hstyle] at hnormal
      cases hnormal
  | ok style =>
      rfl

/-- A heading, and what stands behind it. -/
theorem render_heading
    (h : IsHeading w heading) (rest : String) :
    render (LintResult.styled w heading ++ rest) =
      (renderParts (shown heading.toList).length [] (parts [] rest.toList)).map fun t =>
        ⟨shown heading.toList ++ t.chars,
          ⟨0, (shown heading.toList).length, some w⟩ :: t.spans⟩ := by
  obtain ⟨hword, hheading, hlast⟩ := h
  have hclosing : IsTagBody ('/' :: w.toList) :=
    ⟨'/', w.toList, rfl, rfl, hword.isTagBody.no_brackets⟩
  have hchars : (LintResult.styled w heading ++ rest).toList =
      [] ++ '[' ::
        (w.toList ++ ']' ::
          (heading.toList ++ '[' :: ('/' :: w.toList ++ ']' :: rest.toList))) := by
    simp [LintResult.styled]
  have hopened : (plainPart ([] : List Char)) = [] := rfl
  -- the tag that opens the style, the heading and the tag that closes it are three parts
  rw [render, hchars, parts_append_tag holdsNoTag_nil (by simp) hword.isTagBody,
    parts_append_tag hheading hlast hclosing]
  simp only [List.reverse_nil, List.append_nil, hopened, List.nil_append]
  rw [renderParts, hword.applyTag_open]
  simp only [bind, Except.bind, renderParts_plainPart, List.reverse_reverse, Nat.zero_add]
  rw [renderParts, hword.applyTag_close]
  simp only [bind, Except.bind]
  cases renderParts (shown heading.toList).length [] (parts [] rest.toList) <;> rfl

end Styles

namespace LintResult

/-- The texts in a report that are not the program's own: the detail of a fault, the path
of the document if nothing was found, or what diagnostics say. -/
def shownTexts (r : LintResult) (document : String) : List String :=
  if r.status = .error then [r.errorDetail.getD "None"]
  else if !r.diagnostics.isNonempty then [document]
  else r.diagnostics.groups.flatMap fun (file, ds) => ds.flatMap fun d =>
    [file, d.code, d.message]

section Cells

theorem showsText_of_holdsNoTag
    {s : String}
    (h : HoldsNoTag s.toList) :
    ∃ t : StyledText, render s = .ok t ∧ t.Sound := by
  obtain ⟨chars, hchars⟩ := renderParts_of_holdsNoTag h 0
  exact ⟨⟨chars, []⟩, hchars, StyledText.sound_of_spans_nil chars⟩

/-- Behind a heading, a text without tags is shown. -/
theorem showsText_heading
    {w heading rest : String}
    (h : IsHeading w heading)
    (hrest : HoldsNoTag rest.toList) :
    ∃ t : StyledText, render (styled w heading ++ rest) = .ok t ∧ t.Sound := by
  obtain ⟨chars, hchars⟩ := renderParts_of_holdsNoTag hrest (shown heading.toList).length
  rw [render_heading h, hchars]
  refine ⟨_, rfl, ?_⟩
  intro style hstyle
  obtain rfl := List.mem_singleton.mp hstyle
  exact h.isStyleWord.checkStyle

theorem bracket_not_mem_toDigits
    (n : Nat) :
    ']' ∉ Nat.toDigits 10 n := by
  intro hmem
  cases Text.isAsciiDigit_of_mem_toDigits hmem

/-- A number is written without brackets. -/
theorem bracket_not_mem_repr
    (n : Int) :
    ']' ∉ n.repr.toList := by
  cases n with
  | ofNat k =>
      simpa [Int.repr] using bracket_not_mem_toDigits k
  | negSucc k =>
      simpa [Int.repr] using bracket_not_mem_toDigits (k + 1)

/-- The location of a diagnostic: its file, and a line and a column without brackets. -/
theorem exists_location
    (file : String) (d : Diagnostic) :
    ∃ place : List Char, ']' ∉ place ∧
      ((row file d).getD 0 "").toList = file.toList ++ place := by
  refine ⟨(":" ++ toString (d.line + 1) ++ ":" ++ toString (d.column + 1)).toList, ?_, ?_⟩
  · have hline := bracket_not_mem_repr (d.line + 1)
    have hcolumn := bracket_not_mem_repr (d.column + 1)
    simp [hline, hcolumn]
  · simp [row, String.append_assoc]

/-- The row of a diagnostic without tags is shown. -/
theorem showsCell_row
    {file : String} {d : Diagnostic}
    (h : ∀ text ∈ [file, d.code, d.message], HoldsNoTag text.toList) :
    ∀ i < 4, Table.ShowsCell (row file d) i := by
  simp only [List.forall_mem_cons, List.not_mem_nil, false_imp_iff,
    implies_true, and_true] at h
  obtain ⟨hfile, hcode, hmessage⟩ := h
  intro i hi
  match i, hi with
  | 0, _ =>
      obtain ⟨place, hplace, hlocation⟩ := exists_location file d
      refine showsText_of_holdsNoTag ?_
      rw [hlocation]
      exact hfile.append hplace
  | 1, _ =>
      have hshown : ∃ t : StyledText,
          render (styled (severityColor d.severity) d.severity.name ++ "") = .ok t ∧
            t.Sound :=
        showsText_heading (isHeading_severity d.severity) holdsNoTag_nil
      rwa [String.append_empty] at hshown
  | 2, _ =>
      exact showsText_of_holdsNoTag hcode
  | 3, _ =>
      exact showsText_of_holdsNoTag hmessage

theorem showsCell_header
    (s : DiagnosticSet) :
    ∀ i < (table s).header.length, Table.ShowsCell (table s).header i := by
  have hnames : ∀ name ∈ ["location", "severity", "code", "message"],
      ']' ∉ name.toList := by
    decide +kernel
  intro i hi
  have hcell : (table s).header.getD i "" ∈ (table s).header := by
    rw [List.getD_eq_getElem?_getD, List.getElem?_eq_getElem hi]
    exact List.getElem_mem hi
  exact showsText_of_holdsNoTag (HoldsNoTag.of_no_bracket (hnames _ hcell))

/-- A row in which something closes first is not shown. -/
theorem render_row_of_closesFirst
    {file : String} {d : Diagnostic}
    (h : ∃ text ∈ [file, d.code, d.message], ClosesFirst text.toList) :
    ∃ i < 4, ∃ c : Crash, render ((row file d).getD i "") = .error c := by
  obtain ⟨text, htext, hcloses⟩ := h
  simp only [List.mem_cons, List.not_mem_nil, or_false] at htext
  obtain rfl | rfl | rfl := htext
  · obtain ⟨place, -, hlocation⟩ := exists_location text d
    refine ⟨0, by decide, renderParts_of_closesFirst ?_ 0⟩
    rw [hlocation]
    exact hcloses.append place
  · exact ⟨2, by decide, renderParts_of_closesFirst hcloses 0⟩
  · exact ⟨3, by decide, renderParts_of_closesFirst hcloses 0⟩

end Cells

section Words

variable {r : LintResult} {screen : Screen} {document : String}

theorem printed_ok
    {s : String}
    (h : ∃ t : StyledText, render s = .ok t ∧ t.Sound) (width : Nat) :
    ∃ text : String, printed width s = .ok text := by
  obtain ⟨t, hrender, ht⟩ := h
  obtain ⟨lines, hlines⟩ := printed_of_sound hrender ht width
  refine ⟨joinLines lines, ?_⟩
  rw [printed, hlines]
  rfl

theorem printed_error
    {s : String}
    (h : ∃ c : Crash, render s = .error c) (width : Nat) :
    ∃ c : Crash, printed width s = .error c := by
  obtain ⟨c, hc⟩ := h
  refine ⟨c, ?_⟩
  rw [printed, printed_of_error hc]
  rfl

section Headings

variable {w heading lead text : String}

/-- A line with a heading is printed if the text in it holds no tag. -/
theorem printed_heading
    (h : IsHeading w heading)
    (hlead : '[' ∉ lead.toList)
    (htext : HoldsNoTag text.toList) (width : Nat) :
    ∃ line : String, printed width (styled w heading ++ (lead ++ text)) = .ok line := by
  refine printed_ok (showsText_heading h ?_) width
  rw [String.toList_append]
  exact htext.append_left hlead

theorem printed_heading_of_closesFirst
    (h : IsHeading w heading)
    (hlead : '[' ∉ lead.toList)
    (hslash : '\\' ∉ lead.toList)
    (htext : ClosesFirst text.toList) (width : Nat) :
    ∃ c : Crash, printed width (styled w heading ++ (lead ++ text)) = .error c := by
  have hrest : ClosesFirst (lead ++ text).toList := by
    rw [String.toList_append]
    exact htext.append_left hlead hslash
  obtain ⟨c, hc⟩ := renderParts_of_closesFirst hrest (shown heading.toList).length
  refine printed_error ⟨c, ?_⟩ width
  rw [render_heading h, hc]
  rfl

end Headings

/-- The table of a result is shown if no text of a diagnostic holds a tag. -/
theorem render_table_of_holdsNoTag
    {s : DiagnosticSet}
    (h : ∀ g ∈ s.groups, ∀ d ∈ g.2, ∀ text ∈ [g.1, d.code, d.message],
      HoldsNoTag text.toList)
    (width : Nat) :
    ∃ lines : List (List Char), (table s).render width = .ok lines := by
  refine Table.render_of_showsCell ?_ width
  rintro row hrow
  obtain rfl | hrow := List.mem_cons.mp hrow
  · exact showsCell_header s
  · obtain ⟨⟨file, ds⟩, hgroup, hrow⟩ := List.mem_flatMap.mp hrow
    obtain ⟨d, hd, rfl⟩ := List.mem_map.mp hrow
    exact showsCell_row (h _ hgroup d hd)

theorem render_table_of_closesFirst
    {s : DiagnosticSet}
    (h : ∃ g ∈ s.groups, ∃ d ∈ g.2, ∃ text ∈ [g.1, d.code, d.message],
      ClosesFirst text.toList)
    (width : Nat) :
    ∃ c : Crash, (table s).render width = .error c := by
  obtain ⟨⟨file, ds⟩, hgroup, d, hd, hcloses⟩ := h
  obtain ⟨i, hi, hcell⟩ := render_row_of_closesFirst hcloses
  have hrow : row file d ∈ (table s).rows :=
    List.mem_flatMap.mpr ⟨(file, ds), hgroup, List.mem_map_of_mem hd⟩
  exact Table.render_of_error (List.mem_cons_of_mem _ hrow) hi hcell width

theorem inWords_of_error
    (h : r.status = .error) :
    r.inWords screen document =
      (printed screen.errors
        (styled "red" "Lint failed" ++ (": " ++ r.errorDetail.getD "None"))).map
        .errors := by
  unfold inWords
  simp only [h, if_true]
  rw [← String.append_assoc]
  cases printed screen.errors
    (styled "red" "Lint failed" ++ ": " ++ r.errorDetail.getD "None") <;> rfl

theorem inWords_of_nothing
    (h : r.status ≠ .error)
    (hnothing : r.diagnostics.isNonempty = false) :
    r.inWords screen document =
      (printed screen.output (styled "green" "No issues" ++ (" in " ++ document))).map
        .output := by
  rw [inWords, if_neg h, hnothing, ← String.append_assoc]
  cases printed screen.output (styled "green" "No issues" ++ " in " ++ document) <;> rfl

theorem inWords_of_found
    (h : r.status ≠ .error)
    (hfound : r.diagnostics.isNonempty = true) :
    r.inWords screen document = (do
      let lines ← (table r.diagnostics).render screen.output
      pure (.output
        (joinLines lines ++
          (← printed screen.output ("\n" ++ countLine r.diagnostics))))) := by
  rw [inWords, if_neg h, hfound]
  rfl

/-- The line below a table holds no tag. -/
theorem printed_countLine
    (s : DiagnosticSet) (width : Nat) :
    ∃ text : String, printed width ("\n" ++ countLine s) = .ok text := by
  refine printed_ok (showsText_of_holdsNoTag (HoldsNoTag.of_no_bracket ?_)) width
  simp [countLine, bracket_not_mem_toDigits]

/-- A result whose texts hold no tags can be said in words. -/
theorem inWords_of_holdsNoTag
    (h : ∀ text ∈ r.shownTexts document, HoldsNoTag text.toList) :
    ∃ a : Announcement, r.inWords screen document = .ok a := by
  unfold shownTexts at h
  by_cases hstatus : r.status = .error
  · rw [if_pos hstatus] at h
    obtain ⟨line, hline⟩ : ∃ line : String,
        printed screen.errors
          (styled "red" "Lint failed" ++ (": " ++ r.errorDetail.getD "None")) =
          .ok line :=
      printed_heading isHeading_failed (by decide +kernel) (h _ List.mem_cons_self) _
    rw [inWords_of_error hstatus, hline]
    exact ⟨_, rfl⟩
  rw [if_neg hstatus] at h
  cases hfound : r.diagnostics.isNonempty with
  | false =>
      rw [hfound] at h
      obtain ⟨line, hline⟩ : ∃ line : String,
          printed screen.output (styled "green" "No issues" ++ (" in " ++ document)) =
            .ok line :=
        printed_heading isHeading_nothing (by decide +kernel) (h _ List.mem_cons_self) _
      rw [inWords_of_nothing hstatus hfound, hline]
      exact ⟨_, rfl⟩
  | true =>
      rw [hfound] at h
      have htexts : ∀ g ∈ r.diagnostics.groups, ∀ d ∈ g.2,
          ∀ text ∈ [g.1, d.code, d.message], HoldsNoTag text.toList :=
        fun g hg d hd text htext =>
          h text (List.mem_flatMap.mpr ⟨g, hg, List.mem_flatMap.mpr ⟨d, hd, htext⟩⟩)
      obtain ⟨lines, hlines⟩ := render_table_of_holdsNoTag htexts screen.output
      obtain ⟨count, hcount⟩ := printed_countLine r.diagnostics screen.output
      rw [inWords_of_found hstatus hfound, hlines, hcount]
      exact ⟨_, rfl⟩

/-- A result with a text whose first tag closes something cannot. -/
theorem inWords_of_closesFirst
    (h : ∃ text ∈ r.shownTexts document, ClosesFirst text.toList) :
    ∃ c : Crash, r.inWords screen document = .error c := by
  obtain ⟨text, htext, hcloses⟩ := h
  unfold shownTexts at htext
  by_cases hstatus : r.status = .error
  · rw [if_pos hstatus] at htext
    obtain rfl := List.mem_singleton.mp htext
    obtain ⟨c, hc⟩ : ∃ c : Crash,
        printed screen.errors
          (styled "red" "Lint failed" ++ (": " ++ r.errorDetail.getD "None")) =
          .error c :=
      printed_heading_of_closesFirst isHeading_failed (by decide +kernel)
        (by decide +kernel) hcloses _
    rw [inWords_of_error hstatus, hc]
    exact ⟨c, rfl⟩
  rw [if_neg hstatus] at htext
  cases hfound : r.diagnostics.isNonempty with
  | false =>
      rw [hfound] at htext
      obtain rfl := List.mem_singleton.mp htext
      obtain ⟨c, hc⟩ : ∃ c : Crash,
          printed screen.output (styled "green" "No issues" ++ (" in " ++ text)) =
            .error c :=
        printed_heading_of_closesFirst isHeading_nothing (by decide +kernel)
          (by decide +kernel) hcloses _
      rw [inWords_of_nothing hstatus hfound, hc]
      exact ⟨c, rfl⟩
  | true =>
      rw [hfound] at htext
      obtain ⟨g, hg, htext⟩ := List.mem_flatMap.mp htext
      obtain ⟨d, hd, htext⟩ := List.mem_flatMap.mp htext
      obtain ⟨c, hc⟩ := render_table_of_closesFirst (s := r.diagnostics)
        ⟨g, hg, d, hd, text, htext, hcloses⟩ screen.output
      rw [inWords_of_found hstatus hfound, hc]
      exact ⟨c, rfl⟩

end Words

end LintResult

end HdlLint
