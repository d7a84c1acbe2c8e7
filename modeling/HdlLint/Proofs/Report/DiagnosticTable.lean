import HdlLint.Proofs.Diagnostic.WellFormed
import HdlLint.Proofs.Report.AlignedTables
import HdlLint.Proofs.Report.ResultInWords
import HdlLint.Proofs.Report.ShownLocations

/-!
# The table of diagnostics

The table is meant to hold a line for each diagnostic, with the texts of the diagnostic in
it, and below it the numbers of diagnostics and of files.  It does if there is room for it
and the locations and messages are seen as they are.

* `LintResult.tableText`: what the table is meant to be.
* `LintResult.printed_countLine_of_fits`: the line below the table.
* `LintResult.render_table_of_verbatim`: the table.
* `LintResult.inWords_of_render`: the report of a result with diagnostics.
-/

namespace HdlLint

open Report Report.Markup

/-- What is told of a diagnostic: where it is, how severe, its code and its message. -/
def Diagnostic.told (d : Diagnostic) : List String :=
  [d.location, d.severity.name, d.code, d.message]

namespace LintResult

/-- The rows of the table as they are meant to be: one for each diagnostic, in the order
of the set, below the header. -/
def toldRows (s : DiagnosticSet) : List (List (List Char)) :=
  ((table s).header :: s.toList.map Diagnostic.told).map (List.map String.toList)

/-- The table as it is meant to be, and the line below it. -/
def tableText (s : DiagnosticSet) : String :=
  joinLines (alignedRows 4 (toldRows s)) ++ ("\n" ++ countLine s ++ "\n")

/-- There is room for the table on a screen of a width: paths and messages are laid out on
one line, and all columns stand side by side. -/
structure TableFits (screen : Nat) (s : DiagnosticSet) : Prop where
  path_oneLine : ∀ d ∈ s.toList, ∀ c ∈ d.path.toList, endsLine c = false ∧ c ≠ '\t'
  message_isLine : ∀ d ∈ s.toList, IsLine d.message.toList
  width_le : (columnWidths 4 (toldRows s)).sum + 6 ≤ screen
  count_le : (countLine s).length ≤ screen

instance decidableTableFits (screen : Nat) : DecidablePred (TableFits screen) := fun s =>
  decidable_of_iff
    ((s.toList.all fun d => d.path.toList.all fun c => !endsLine c && c ≠ '\t') = true ∧
      (s.toList.all fun d => decide (IsLine d.message.toList)) = true ∧
      (columnWidths 4 (toldRows s)).sum + 6 ≤ screen ∧ (countLine s).length ≤ screen)
    (by
      simp only [List.all_eq_true, Bool.and_eq_true, Bool.not_eq_true', decide_eq_true_eq]
      exact ⟨fun ⟨hpath, hmessage, hwidth, hcount⟩ => ⟨hpath, hmessage, hwidth, hcount⟩,
        fun ⟨hpath, hmessage, hwidth, hcount⟩ => ⟨hpath, hmessage, hwidth, hcount⟩⟩)

/-- The texts of a diagnostic that are free are seen as they are. -/
def ShowsVerbatim (d : Diagnostic) : Prop :=
  IsVerbatim d.location.toList ∧ IsVerbatim d.message.toList

instance (d : Diagnostic) : Decidable (ShowsVerbatim d) :=
  inferInstanceAs (Decidable (_ ∧ _))

section Cells

variable {text : String} {d : Diagnostic}

theorem render_of_isVerbatim
    (h : IsVerbatim text.toList) :
    render text = .ok ⟨text.toList, []⟩ := by
  rw [render_of_holdsNoTag h.no_tag, shown_eq_self_iff.mpr h.toIsPlainlySeen]

/-- A printable character of ASCII that is no mark. -/
def isWordChar (c : Char) : Bool :=
  !isMark c && (0x20 ≤ c.toNat && c.toNat ≤ 0x7E)

/-- A text of such characters that does not end in a space. -/
def isWord (s : List Char) : Bool :=
  s.all isWordChar && s.getLast? ≠ some ' '

theorem isWordChar_iff
    {c : Char} :
    isWordChar c = true ↔ isMark c = false ∧ IsNarrow c := by
  simp [isWordChar, IsNarrow]

theorem isWordChar_of_isWord
    {s : List Char}
    (h : isWord s = true) :
    ∀ c ∈ s, isMark c = false ∧ IsNarrow c := by
  rw [isWord, Bool.and_eq_true, List.all_eq_true] at h
  exact fun c hc => isWordChar_iff.mp (h.1 c hc)

theorem isVerbatim_of_isWord
    {s : List Char}
    (h : isWord s = true) :
    IsVerbatim s :=
  isVerbatim_of_no_marks fun c hc => (isWordChar_of_isWord h c hc).1

theorem isLine_of_isWord
    {s : List Char}
    (h : isWord s = true) :
    IsLine s := by
  refine isLine_of_narrow (fun c hc => (isWordChar_of_isWord h c hc).2) ?_
  rw [isWord, Bool.and_eq_true, decide_eq_true_eq] at h
  exact h.2

theorem isWord_severity
    (s : Severity) :
    isWord s.name.toList = true := by
  cases s <;> decide +kernel

/-- The name of a severity in its colour. -/
theorem render_severity
    (s : Severity) :
    render (styled (severityColor s) s.name) =
      .ok ⟨s.name.toList, [⟨0, s.name.toList.length, some (severityColor s)⟩]⟩ := by
  have hshown : shown s.name.toList = s.name.toList :=
    shown_eq_self_iff.mpr (isVerbatim_of_isWord (isWord_severity s)).toIsPlainlySeen
  have hheading := render_heading (isHeading_severity s) ""
  rw [String.append_empty, hshown] at hheading
  rw [hheading]
  simp [parts_nil, plainPart, renderParts, Except.map]

/-- A cell is shown on one line as it is told. -/
def ShowsLine (markup text : String) : Prop :=
  ∃ t : StyledText, render markup = .ok t ∧ t.chars = text.toList ∧ t.IsOneLine

theorem ShowsLine.look_chars
    {markup : String}
    (h : ShowsLine markup text) :
    (look markup).chars = text.toList ∧ (look markup).IsOneLine := by
  obtain ⟨t, ht, hchars, hline⟩ := h
  rw [look, ht]
  exact ⟨hchars, hline⟩

theorem showsLine_of_isVerbatim
    (hverbatim : IsVerbatim text.toList)
    (hline : IsLine text.toList) :
    ShowsLine text text :=
  ⟨_, render_of_isVerbatim hverbatim, rfl, hline.isOneLine⟩

theorem showsLine_of_isWord
    (h : isWord text.toList = true) :
    ShowsLine text text :=
  showsLine_of_isVerbatim (isVerbatim_of_isWord h) (isLine_of_isWord h)

theorem showsLine_severity
    (s : Severity) :
    ShowsLine (styled (severityColor s) s.name) s.name := by
  refine ⟨_, render_severity s, rfl, isLine_of_isWord (isWord_severity s),
    Or.inr fun c hc => (isWordChar_of_isWord (isWord_severity s) c hc).2,
      fun style hstyle => ?_⟩
  obtain rfl := List.mem_singleton.mp hstyle
  exact (isHeading_severity s).isStyleWord.checkStyle

/-- A code is the name of the linter or made of capitals, digits and underscores. -/
theorem showsLine_code
    (h : d.WellFormed) :
    ShowsLine d.code d.code := by
  refine showsLine_of_isWord ?_
  rcases h.code_spelled with hcode | ⟨-, hcode⟩
  · rw [hcode]
    decide +kernel
  · have hchar : ∀ c : Char, DiagnosticLine.isCodeChar c = true →
        isWordChar c = true ∧ c ≠ ' ' := by
      intro c hc
      have hspace : c ≠ ' ' := by
        rintro rfl
        exact absurd hc (by decide)
      refine ⟨isWordChar_iff.mpr ⟨not_isMark_of_class (by decide) hc, ?_⟩, hspace⟩
      simp only [DiagnosticLine.isCodeChar, Text.isAsciiDigit, Bool.or_eq_true,
        Bool.and_eq_true, decide_eq_true_eq] at hc
      rcases hc with (hc | hc) | rfl
      · exact ⟨by omega, by omega⟩
      · exact ⟨by omega, by omega⟩
      · exact ⟨by decide, by decide⟩
    rw [isWord, Bool.and_eq_true, List.all_eq_true, decide_eq_true_eq]
    exact ⟨fun c hc => (hchar c (hcode c hc)).1,
      fun hlast => (hchar _ (hcode _ (List.mem_of_getLast? hlast))).2 rfl⟩

end Cells

section Rows

variable {s : DiagnosticSet} {d : Diagnostic}

theorem showsLine_header :
    ∀ i < 4, ShowsLine ((table s).header.getD i "") ((table s).header.getD i "") := by
  have hwords : ∀ i < 4,
      isWord (["location", "severity", "code", "message"].getD i "").toList = true := by
    decide +kernel
  exact fun i hi => showsLine_of_isWord (hwords i hi)

/-- The cells of a row are shown as they are told. -/
theorem showsLine_row
    (hd : d.WellFormed)
    (hpath : ∀ c ∈ d.path.toList, endsLine c = false ∧ c ≠ '\t')
    (hmessage : IsLine d.message.toList)
    (hverbatim : ShowsVerbatim d) :
    ∀ i < 4, ShowsLine ((row d.path d).getD i "") (d.told.getD i "") := by
  intro i hi
  match i, hi with
  | 0, _ =>
      exact showsLine_of_isVerbatim hverbatim.1
        (isLine_location hd.line_nonneg hd.column_nonneg hpath)
  | 1, _ => exact showsLine_severity d.severity
  | 2, _ => exact showsLine_code hd
  | 3, _ => exact showsLine_of_isVerbatim hverbatim.2 hmessage

theorem rows_of_grouped
    (h : s.Grouped) :
    (table s).rows = s.toList.map fun d => row d.path d := by
  rw [table, DiagnosticSet.toList, List.map_flatMap]
  refine List.flatMap_congr fun g hg => List.map_congr_left fun d hd => ?_
  rw [h.path_eq g hg d hd]

/-- What is seen of a row whose cells are shown as they are told. -/
theorem look_row
    {row told : List String}
    (hlength : told.length = 4)
    (h : ∀ i < 4, ShowsLine (row.getD i "") (told.getD i "")) :
    (List.range 4).map (fun i => (look (row.getD i "")).chars) =
      told.map String.toList := by
  refine List.ext_getElem (by simp [hlength]) fun i hi hi' => ?_
  rw [List.length_map, hlength] at hi'
  rw [List.getElem_map, List.getElem_map, List.getElem_range, (h i hi').look_chars.1,
    List.getD_eq_getElem told "" (by omega)]

section Sound

variable {screen : Nat} (hsound : s.Sound) (hfits : TableFits screen s)
  (hverbatim : ∀ d ∈ s.toList, ShowsVerbatim d)

include hsound hfits hverbatim

theorem showsLine_rows :
    ∀ d ∈ s.toList, ∀ i < 4,
      ShowsLine ((row d.path d).getD i "") (d.told.getD i "") := fun d hd =>
  showsLine_row (hsound.wellFormed d hd) (hfits.path_oneLine d hd)
    (hfits.message_isLine d hd) (hverbatim d hd)

theorem seenRows_table :
    (table s).seenRows = toldRows s := by
  rw [Table.seenRows, toldRows, List.map_cons, List.map_cons,
    rows_of_grouped hsound.grouped, List.map_map, List.map_map]
  refine congrArg₂ _ (look_row rfl showsLine_header) (List.map_congr_left fun d hd => ?_)
  exact look_row rfl (showsLine_rows hsound hfits hverbatim d hd)

theorem render_table_of_verbatim :
    (table s).render screen = .ok (alignedRows 4 (toldRows s)) := by
  have hcells : ∀ row ∈ (table s).header :: (table s).rows, ∀ i < 4, ∃ text : String,
      ShowsLine (row.getD i "") text := by
    rw [rows_of_grouped hsound.grouped]
    intro cells hcells i hi
    rcases List.mem_cons.mp hcells with rfl | hcells
    · exact ⟨_, showsLine_header i hi⟩
    · obtain ⟨d, hd, rfl⟩ := List.mem_map.mp hcells
      exact ⟨_, showsLine_rows hsound hfits hverbatim d hd i hi⟩
  have htable : (table s).Fits screen :=
    { has_columns := Nat.succ_pos 3
      shown := fun row hrow i hi => by
        obtain ⟨text, t, ht, -⟩ := hcells row hrow i hi
        exact ⟨t, ht⟩
      one_line := fun row hrow i hi => by
        obtain ⟨text, hline⟩ := hcells row hrow i hi
        exact hline.look_chars.2
      width_le := by
        rw [seenRows_table hsound hfits hverbatim]
        exact hfits.width_le }
  rw [Table.render_of_fits htable, seenRows_table hsound hfits hverbatim]
  rfl

end Sound

end Rows

section Count

variable {screen : Nat} {s : DiagnosticSet}

/-- The line below the table is printable ASCII without marks. -/
theorem isWord_countLine
    (s : DiagnosticSet) :
    isWord (countLine s).toList = true := by
  have hdigits : ∀ n : Nat, (Nat.toDigits 10 n).all isWordChar = true := by
    intro n
    refine List.all_eq_true.mpr fun c hc => ?_
    have hdigit := Text.isAsciiDigit_of_mem_toDigits hc
    exact isWordChar_iff.mpr ⟨isMark_of_isAsciiDigit hdigit,
      isNarrow_of_isAsciiDigit hdigit⟩
  have hwords : ∀ text ∈ [" issue(s) in ", " file(s)"],
      text.toList.all isWordChar = true := by
    decide +kernel
  have hlast : " file(s)".toList.getLast? = some ')' := by
    decide +kernel
  have hcount : (countLine s).toList =
      Nat.toDigits 10 s.size ++ " issue(s) in ".toList ++
        Nat.toDigits 10 s.files.length ++ " file(s)".toList := by
    simp [countLine]
  rw [isWord, hcount, List.getLast?_append, hlast, List.all_append, List.all_append,
    List.all_append, hdigits, hdigits,
    hwords _ (by simp), hwords _ (by simp)]
  simp

/-- A blank line, and the line below the table. -/
theorem printed_countLine_of_fits
    (h : (countLine s).length ≤ screen) :
    printed screen ("\n" ++ countLine s) = .ok ("\n" ++ countLine s ++ "\n") := by
  have hword := isWord_countLine s
  have hline := isLine_of_isWord hword
  have hempty : IsLine [] := isLine_of_isWord rfl
  have hnewline : '\n' ∉ (countLine s).toList := hline.isOneLine.newline_not_mem
  have hchars : ("\n" ++ countLine s).toList = '\n' :: (countLine s).toList := by
    simp
  have hrender : render ("\n" ++ countLine s) =
      .ok ⟨'\n' :: (countLine s).toList, []⟩ := by
    rw [← hchars]
    refine render_of_isVerbatim (isVerbatim_of_no_marks ?_)
    rw [hchars, List.forall_mem_cons]
    exact ⟨by decide, fun c hc => (isWordChar_of_isWord hword c hc).1⟩
  have hcells : cellCount (countLine s).toList ≤ screen := by
    rwa [cellCount_of_ascii fun c hc => (isWordChar_of_isWord hword c hc).2,
      String.length_toList]
  have hnone : cellCount [] ≤ screen := Nat.zero_le _
  have hlines := StyledText.lines_newline_cons hnewline
  have hwrap : (StyledText.mk ('\n' :: (countLine s).toList) []).wrap screen .fold =
      [⟨[], []⟩, ⟨(countLine s).toList, []⟩] := by
    rw [StyledText.wrap_eq_flatMap_lines (by rw [hlines]; simp [hnewline]), hlines,
      List.flatMap_cons, List.flatMap_singleton,
      StyledText.wrap_of_fits hempty.isOneLine hnone,
        StyledText.wrap_of_fits hline.isOneLine hcells,
      StyledText.fit_fold_of_fits hnone, StyledText.fit_fold_of_fits hcells]
    rfl
  have hshown : ∀ u : List Char, IsLine u → cellCount u ≤ screen →
      (fitLine screen false (StyledText.segments ⟨u, []⟩)).flatten = u := by
    intro u hu hle
    rw [fitLine_of_le (by rwa [cellsOfSegments_segments hu.isOneLine.counts_evenly]),
      StyledText.segments_text]
  have hchecked :=
    (StyledText.sound_of_spans_nil ('\n' :: (countLine s).toList)).checkStyles_wrap screen
      .fold
  rw [printed, Report.printed, hrender]
  simp only [bind, Except.bind, hchecked]
  rw [hwrap, List.map_cons, List.map_singleton, hshown [] hempty hnone,
    hshown _ hline hcells]
  simp [joinLines, pure, Except.pure, String.ext_iff]

end Count

section Words

variable {r : LintResult} {screen : Screen}

/-- The report of a result with diagnostics is a table and the line below it. -/
theorem inWords_of_render
    {lines : List (List Char)}
    (hstatus : r.status ≠ .error)
    (hfound : r.diagnostics.isNonempty = true)
    (hcount : (countLine r.diagnostics).length ≤ screen.output)
    (hrender : (table r.diagnostics).render screen.output = .ok lines)
    (document : String) :
    r.inWords screen document =
      .ok (.output (joinLines lines ++ ("\n" ++ countLine r.diagnostics ++ "\n"))) := by
  rw [inWords_of_found hstatus hfound, hrender, printed_countLine_of_fits hcount]
  rfl

end Words

end LintResult
end HdlLint
