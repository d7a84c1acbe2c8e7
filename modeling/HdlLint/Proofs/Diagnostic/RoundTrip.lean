import HdlLint.Proofs.Diagnostic.QuotedLocation
import HdlLint.Proofs.Diagnostic.Rendering
import HdlLint.Proofs.Text.JoinedLines

/-!
# Reading back what was written

A transcript of rendered diagnostics is read back as the set of these diagnostics,
whichever line ends join its lines.

* `Renderable.heading`: what stands before the message of a rendered line.
* `parseLine_render`: the fields of one line.
* `diagnostic?_fields`: the diagnostic that these fields describe.
* `read_transcript`: the whole transcript.
-/

namespace HdlLint

open Text DiagnosticLine

namespace Diagnostic

section OneLine

variable {d : Diagnostic} {withColumn : Bool}

/-- The column and the message of a rendered line. -/
theorem Renderable.columnAndMessage?_tail
    (h : d.Renderable)
    (hcolumn : withColumn = false → d.ColumnOptional) :
    columnAndMessage? (d.tail withColumn) =
      some ((d.writtenColumn withColumn).map String.toList, d.message.toList) := by
  cases withColumn with
  | true =>
      have htail :
          d.tail true =
            (toString (d.column + 1)).toList ++ ':' :: ' ' :: d.message.toList := by
        simp [tail, columnPart, writtenColumn]
      have hat :
          ColumnAt (d.tail true) (toString (d.column + 1)).toList
            (' ' :: d.message.toList) :=
        ⟨[], htail, by simp, h.column_isPlace.isRun, ' ', List.mem_cons_self, by decide⟩
      exact columnAndMessage?_of_columnAt hat h.message?_eq
  | false =>
      have htail : d.tail false = ' ' :: d.message.toList := by
        simp [tail, columnPart, writtenColumn]
      rw [htail]
      exact columnAndMessage?_of_not_columnAt ((hcolumn rfl).not_columnAt h) h.message?_eq

/-- What stands before the message of a rendered line. -/
def Renderable.heading (h : d.Renderable) (withColumn : Bool) : Heading where
  keyword := d.severity.keyword
  code := d.writtenCode
  path := d.path
  lineText := toString (d.line + 1)
  columnText := d.writtenColumn withColumn
  keyword_isRun := (h.header withColumn).2.1
  code_isRun :=
    fun c hc => (h.header withColumn).2.2 c.toList
      (Option.mem_map_of_mem String.toList hc)
  path_isPath := h.path_isPath
  path_start := h.path_start
  line_isRun := h.line_isPlace.isRun
  column_isRun := by
    cases withColumn with
    | true =>
        rintro c ⟨⟩
        exact h.column_isPlace.isRun
    | false =>
        rintro c ⟨⟩

/-- The fields of a rendered line are the ones that were written. -/
theorem Renderable.parseLine_render
    (h : d.Renderable)
    (hcolumn : withColumn = false → d.ColumnOptional) :
    parseLine (d.render withColumn) = .matched (d.fields withColumn) := by
  have hcolumnPart : (h.heading withColumn).columnPart = d.columnPart withColumn := rfl
  have hmargin : (h.heading withColumn).margin ++ d.message.toList =
      d.tail withColumn := by
    simp [Heading.margin, hcolumnPart, tail]
  have hread := h.columnAndMessage?_tail hcolumn
  have hquotes : ¬ QuotesLocation d.message.toList := by
    rintro ⟨before, extension, digits, after, hextension, hdigits, -, hmessage⟩
    exact h.message_noLocation before extension digits after hextension hdigits hmessage
  rw [← hmargin] at hread
  exact (h.heading withColumn).parseLine_line hread hquotes

/-- A column that is left out is read as zero. -/
theorem Renderable.column_fields
    (h : d.Renderable)
    (hcolumn : withColumn = false → d.ColumnOptional) :
    (d.fields withColumn).column = d.column := by
  have hnonneg : ¬ d.column < 0 := by
    have := h.column_isPlace.nonneg
    omega
  cases withColumn with
  | true =>
      simp only [LineFields.column, fields, writtenColumn, if_true, Option.bind_some,
        h.column_isPlace.zeroBased?, if_neg hnonneg]
  | false =>
      simp only [LineFields.column, fields, writtenColumn, (hcolumn rfl).column_eq]
      rfl

/-- The name of the linter stands for a missing code. -/
theorem Renderable.codeName_fields
    (h : d.Renderable) :
    (d.fields withColumn).codeName = d.code := by
  rcases h.code_form with hcode | hcode
  · simp [LineFields.codeName, fields, writtenCode, hcode]
  · have hne : d.code ≠ "" := by
      intro hnil
      exact hcode.1 (by simp [hnil])
    by_cases hname : d.code = linterName <;>
      simp [LineFields.codeName, fields, writtenCode, hname, hne]

/-- The fields describe the diagnostic they were taken from. -/
theorem Renderable.diagnostic?_fields
    {scope : PathScope}
    (h : d.Renderable)
    (hcolumn : withColumn = false → d.ColumnOptional)
    (hpath : scope.resolve d.path = d.path) :
    (d.fields withColumn).diagnostic? scope = some d := by
  have hline : LineFields.zeroBased? (d.fields withColumn).lineText = some d.line :=
    h.line_isPlace.zeroBased?
  have hnonneg : ¬ d.line < 0 := by
    have := h.line_isPlace.nonneg
    omega
  unfold LineFields.diagnostic?
  simp only [hline, if_neg hnonneg, h.column_fields hcolumn, h.codeName_fields]
  have hsource := h.source_eq
  obtain ⟨path, line, column, message, code, severity, source⟩ := d
  simp_all [fields]

theorem Renderable.readLine_render
    {scope : PathScope}
    (h : d.Renderable)
    (hcolumn : withColumn = false → d.ColumnOptional)
    (hpath : scope.resolve d.path = d.path) :
    Transcript.readLine scope (d.render withColumn) =
      (some d, [Transcript.foundEvent d]) := by
  have hblank : isBlankText (d.render withColumn) = false := by
    have hpercent : isBlank '%' = false := by
      decide
    simp [isBlankText, toList_render, hpercent]
  unfold Transcript.readLine
  rw [hblank, h.parseLine_render hcolumn]
  simp [h.diagnostic?_fields hcolumn hpath]

/-- A rendered diagnostic is one line. -/
theorem Renderable.newline_not_mem_render
    (h : d.Renderable) :
    '\n' ∉ (d.render withColumn).toList := by
  obtain ⟨-, hkeyword, hcode⟩ := h.header withColumn
  have hword := hkeyword.not_mem (c := '\n') (by decide)
  have hcodeText : '\n' ∉ codeText (d.writtenCode.map String.toList) := by
    cases hwritten : d.writtenCode.map String.toList with
    | none =>
        simp [codeText]
    | some code =>
        have hrun := (hcode code hwritten).not_mem (c := '\n') (by decide)
        simp [codeText, hrun]
  have hline : '\n' ∉ (d.line + 1).repr.toList :=
    h.line_isPlace.isRun.not_mem (by decide)
  have hcolumn : '\n' ∉ (d.columnPart withColumn).toList := by
    have hdigits : '\n' ∉ (d.column + 1).repr.toList :=
      h.column_isPlace.isRun.not_mem (by decide)
    cases withColumn <;> simp [columnPart, writtenColumn, hdigits]
  simp [toList_render, body, tail, hword, hcodeText, h.path_isPath.1, hline,
    hcolumn, h.message_line]

/-- A rendered diagnostic does not end in a part of a line end. -/
theorem Renderable.getLast?_render
    (h : d.Renderable) :
    (d.render withColumn).toList.getLast? ≠ some '\r' := by
  obtain ⟨before, hrender⟩ :
      ∃ before : List Char, (d.render withColumn).toList =
        before ++ d.message.toList := by
    refine ⟨'%' ::
      (d.severity.keyword.toList ++ (codeText (d.writtenCode.map String.toList) ++
      ':' :: ' ' :: (d.path.toList ++ ':' :: ((toString (d.line + 1)).toList ++ ':' ::
        ((d.columnPart withColumn).toList ++ [' ']))))), ?_⟩
    simp [toList_render, body, tail]
  rw [hrender, List.getLast?_append_of_ne_nil _ h.message_ne_nil]
  exact h.message_end

end OneLine
end Diagnostic

/-- A diagnostic to be reported: whether its column is written, and the line end behind
it. -/
structure Report where
  diagnostic : Diagnostic
  withColumn : Bool
  ending : LineEnd

namespace Report

/-- The line of a report. -/
def line (r : Report) : String :=
  r.diagnostic.render r.withColumn

/-- The lines of reports, joined. -/
def transcript (reports : List Report) : String :=
  joinLines (reports.map fun r => (r.line, r.ending))

/-- What makes the line of a report unambiguous. -/
structure Readable (r : Report) : Prop where
  renderable : r.diagnostic.Renderable
  column : r.withColumn = false → r.diagnostic.ColumnOptional

end Report

/-- Whether reported paths stand for themselves: the linter ran in the folder of the file,
no root is known, or the path is absolute. -/
def PathScope.Keeps (scope : PathScope) (path : String) : Prop :=
  scope.atFile = true ∨ scope.root = none ∨ scope.platform.isAbsolute path = true

theorem PathScope.Keeps.resolve_eq
    {scope : PathScope} {path : String}
    (h : scope.Keeps path) :
    scope.resolve path = path := by
  unfold PathScope.resolve
  rcases h with hfile | hroot | habsolute
  · simp [hfile]
  · simp [hroot]
  · cases scope.root <;> simp [habsolute]

namespace Transcript

variable {scope : PathScope} {reports : List Report}

theorem splitLines_transcript
    (hne : reports ≠ [])
    (hreadable : ∀ r ∈ reports, r.Readable) :
    splitLines (Report.transcript reports) = reports.map Report.line := by
  unfold Report.transcript
  rw [splitLines_joinLines]
  · simp [Function.comp_def]
  · simpa using hne
  · intro l hl
    obtain ⟨r, hr, rfl⟩ := List.mem_map.mp hl
    exact (hreadable r hr).renderable.newline_not_mem_render
  · intro l hl
    obtain ⟨r, hr, rfl⟩ := List.mem_map.mp (List.mem_of_mem_dropLast hl)
    exact (hreadable r hr).renderable.getLast?_render

theorem map_readLine_line
    (hreadable : ∀ r ∈ reports, r.Readable)
    (hscope : ∀ r ∈ reports, scope.Keeps r.diagnostic.path) :
    (reports.map Report.line).map (readLine scope) =
      reports.map fun r => (some r.diagnostic, [foundEvent r.diagnostic]) := by
  rw [List.map_map, List.map_inj_left]
  intro r hr
  obtain ⟨hrenderable, hcolumn⟩ := hreadable r hr
  rw [Function.comp_apply, Report.line,
    hrenderable.readLine_render hcolumn (hscope r hr).resolve_eq]

/-- A transcript of rendered diagnostics is read as the set of these diagnostics, and no
line is reported as one that is not understood. -/
theorem read_transcript
    (hreadable : ∀ r ∈ reports, r.Readable)
    (hscope : ∀ r ∈ reports, scope.Keeps r.diagnostic.path) :
    (read scope (Report.transcript reports)).1 = .ofList (reports.map Report.diagnostic) ∧
    (read scope (Report.transcript reports)).2 =
      reports.map (fun r => foundEvent r.diagnostic) ∧
    ∀ text : String,
      unmatchedEvent text ∉ (read scope (Report.transcript reports)).2 := by
  have hevents :
      read scope (Report.transcript reports) =
        (.ofList (reports.map Report.diagnostic),
          reports.map fun r => foundEvent r.diagnostic) := by
    by_cases hne : reports = []
    · subst hne
      rfl
    · unfold read
      rw [splitLines_transcript hne hreadable, map_readLine_line hreadable hscope]
      simp [List.filterMap_map, List.flatMap_map, ← List.map_eq_flatMap]
  refine ⟨by rw [hevents], by rw [hevents], ?_⟩
  intro text hmem
  rw [hevents] at hmem
  obtain ⟨r, -, heq⟩ := List.mem_map.mp hmem
  have hlevel := congrArg Event.level heq
  cases hlevel

/-- A diagnostic in the first column, written with its column and without. -/
theorem read_transcript_first_column :
    let d : Diagnostic :=
      ⟨"/w/a.v", 2, 0, "Signal is not used", "UNUSED", .warning, linterName⟩
    Report.transcript [⟨d, true, .crlf⟩, ⟨d, false, .lf⟩] =
      "%Warning-UNUSED: /w/a.v:3:1: Signal is not used\r\n" ++
        "%Warning-UNUSED: /w/a.v:3: Signal is not used" ∧
    (read ⟨false, some "/w", .host⟩
      (Report.transcript [⟨d, true, .crlf⟩, ⟨d, false, .lf⟩])).1 =
      .ofList [d, d] := by
  intro d
  have hd : d.Renderable := {
    source_eq := rfl
    code_form := Or.inr (by decide +kernel)
    path_isPath := ⟨by decide +kernel, "/w/a".toList, ['v'], by decide +kernel, by decide⟩
    path_start := not_head? (c := '/') (by decide +kernel) (by decide)
    line_isPlace := ⟨by decide, by decide +kernel⟩
    column_isPlace := ⟨by decide, by decide +kernel⟩
    message_nonempty := by decide
    message_line := by decide +kernel
    message_start := not_head? (c := 'S') (by decide +kernel) (by decide)
    message_end := by decide +kernel
    message_noLocation := .of_no_dot (by decide +kernel) }
  have hcolumn : d.ColumnOptional :=
    ⟨rfl, .of_head? (not_head? (c := 'S') (by decide +kernel) (by decide))⟩
  have hkeeps : (⟨false, some "/w", .host⟩ : PathScope).Keeps d.path :=
    Or.inr (Or.inr (by decide +kernel))
  refine ⟨by decide +kernel, (read_transcript ?_ ?_).1⟩
  · simp only [List.forall_mem_cons, List.not_mem_nil, false_imp_iff,
      implies_true, and_true]
    exact ⟨⟨hd, by simp⟩, hd, fun _ => hcolumn⟩
  · simp only [List.forall_mem_cons, List.not_mem_nil, false_imp_iff,
      implies_true, and_true]
    exact ⟨hkeeps, hkeeps⟩

end Transcript
end HdlLint
