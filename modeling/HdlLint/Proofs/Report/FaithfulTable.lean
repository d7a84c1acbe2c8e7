import HdlLint.Proofs.Report.DiagnosticTable
import HdlLint.Proofs.Report.LaidOutMarks

/-!
# Tables that tell what they are meant to

If some location or message is not seen as it is, the table lacks a mark that it is meant
to show: what is seen of a text has fewer marks than the text, and the layout brings none
in.  So the table is what it is meant to be exactly if all of them are seen as they are.

* `markCount_look`: what is seen of a cell.
* `markCount_alignedRows`: the marks that a table is meant to show.
* `inWords_eq_tableText_iff`: when the table is what it is meant to be.
-/

namespace HdlLint

open Report Report.Markup

section Cells

/-- What is seen of a cell has no more marks than its text, and fewer unless the text is
seen as it is. -/
theorem Report.markCount_look
    (text : String) :
    markCount (look text).chars ≤ markCount text.toList ∧
    (¬ IsVerbatim text.toList → markCount (look text).chars < markCount text.toList) := by
  cases hrender : render text with
  | error crash =>
      rw [look, hrender]
      refine ⟨Nat.zero_le _, fun hnot => ?_⟩
      -- only marks keep a text from being seen as it is
      by_contra hnone
      refine hnot (isVerbatim_of_no_marks ?_)
      simpa [markCount_nil, markCount, List.countP_eq_zero] using hnone
  | ok t =>
      rw [look, hrender]
      have hseen : t.chars = seenOf (parts [] text.toList) := renderParts_chars hrender
      obtain ⟨hle, hlt⟩ := markCount_seenOf_parts [] text.toList
      refine ⟨by rwa [hseen], fun hnot => ?_⟩
      by_cases htag : HoldsNoTag text.toList
      · rw [render_of_holdsNoTag htag] at hrender
        obtain rfl := Except.ok.inj hrender
        refine (isSeenOf_shown text.toList).resolve_left fun hsame => ?_
        exact hnot ⟨shown_eq_self_iff.mp hsame, htag⟩
      · rw [hseen]
        exact hlt htag

end Cells

namespace LintResult

section Tables

variable {s : DiagnosticSet} {d : Diagnostic}

/-- What is seen of the row of a diagnostic. -/
theorem markCount_row
    (d : Diagnostic) :
    let seen := ((List.range 4).map fun i =>
      (look ((row d.path d).getD i "")).chars).flatten
    markCount seen ≤ markCount (d.told.map String.toList).flatten ∧
    (¬ ShowsVerbatim d →
      markCount seen < markCount (d.told.map String.toList).flatten) := by
  intro seen
  have hseen : seen =
      (look d.location).chars ++
      (look (styled (severityColor d.severity) d.severity.name)).chars ++
      (look d.code).chars ++ (look d.message).chars := by
    simp [seen, List.range_succ, row, Diagnostic.location]
  have htold : (d.told.map String.toList).flatten =
      d.location.toList ++ d.severity.name.toList ++ d.code.toList ++
        d.message.toList := by
    simp [Diagnostic.told]
  have hseverity : (look (styled (severityColor d.severity) d.severity.name)).chars =
      d.severity.name.toList := by
    rw [look, render_severity]
  obtain ⟨hlocation, hlocation'⟩ := markCount_look d.location
  obtain ⟨hcode, -⟩ := markCount_look d.code
  obtain ⟨hmessage, hmessage'⟩ := markCount_look d.message
  rw [hseen, htold, hseverity]
  simp only [markCount_append]
  refine ⟨by omega, fun hnot => ?_⟩
  by_cases hfirst : IsVerbatim d.location.toList
  · have := hmessage' fun hsecond => hnot ⟨hfirst, hsecond⟩
    omega
  · have := hlocation' hfirst
    omega

theorem markCount_flatMap_lt
    {α : Type} {l : List α} {f g : α → List Char} {x : α}
    (h : ∀ x ∈ l, markCount (f x) ≤ markCount (g x))
    (hx : x ∈ l)
    (hlt : markCount (f x) < markCount (g x)) :
    markCount (l.flatMap f) < markCount (l.flatMap g) := by
  obtain ⟨before, after, rfl⟩ := List.append_of_mem hx
  have hbefore := markCount_flatMap_le fun y hy => h y (List.mem_append_left _ hy)
  have hafter :=
    markCount_flatMap_le fun y hy =>
      h y (List.mem_append_right _ (List.mem_cons_of_mem x hy))
  simp only [List.flatMap_append, List.flatMap_cons, markCount_append]
  omega

/-- What is seen of the cells of a table, unless all free texts are seen as they are. -/
theorem markCount_seenRows_lt
    (hgrouped : s.Grouped)
    (hd : d ∈ s.toList)
    (hnot : ¬ ShowsVerbatim d) :
    markCount ((table s).seenRows.flatMap List.flatten) <
      markCount ((toldRows s).flatMap List.flatten) := by
  have hheader : (List.range 4).map (fun i => (look ((table s).header.getD i "")).chars) =
      (table s).header.map String.toList :=
    look_row rfl showsLine_header
  have hlost : markCount (s.toList.flatMap fun d =>
        ((List.range 4).map fun i => (look ((row d.path d).getD i "")).chars).flatten) <
      markCount (s.toList.flatMap fun d => (d.told.map String.toList).flatten) :=
    markCount_flatMap_lt (fun d _ => (markCount_row d).1) hd ((markCount_row d).2 hnot)
  have hseen : (table s).seenRows.flatMap List.flatten =
      ((table s).header.map String.toList).flatten ++
      s.toList.flatMap fun d =>
        ((List.range 4).map fun i =>
          (look ((row d.path d).getD i "")).chars).flatten := by
    rw [Table.seenRows, List.flatMap_map, List.flatMap_cons, rows_of_grouped hgrouped,
      List.flatMap_map, ← hheader]
    rfl
  have htold : (toldRows s).flatMap List.flatten =
      ((table s).header.map String.toList).flatten ++
      s.toList.flatMap fun d => (d.told.map String.toList).flatten := by
    rw [toldRows, List.flatMap_map, List.flatMap_cons, List.flatMap_map]
  rw [hseen, htold, markCount_append, markCount_append]
  omega

theorem markCount_joinLines
    (lines : List (List Char)) :
    markCount (joinLines lines).toList = markCount lines.flatten := by
  have hnewline : markCount ['\n'] = 0 := by decide
  rw [joinLines, String.toList_ofList]
  induction lines with
  | nil => rfl
  | cons l lines ih =>
      rw [List.flatMap_cons, List.flatten_cons, markCount_append, markCount_append,
        markCount_append, hnewline, ih,
      Nat.add_zero]

theorem markCount_intercalate
    {separator : List Char}
    (h : markCount separator = 0) (texts : List (List Char)) :
    markCount (separator.intercalate texts) = markCount texts.flatten := by
  induction texts with
  | nil => rfl
  | cons s texts ih =>
      cases texts with
      | nil => simp [List.intercalate]
      | cons t texts =>
          rw [List.intercalate_cons_cons, List.flatten_cons, markCount_append,
            markCount_append, markCount_append, h, ih,
            Nat.add_zero]

/-- The marks in a row of texts in columns are those of the texts. -/
theorem markCount_alignedRow
    {widths : List Nat} {row : List (List Char)}
    (h : widths.length = row.length) :
    markCount (alignedRow widths row) = markCount row.flatten := by
  rw [alignedRow, markCount_intercalate (by decide)]
  induction row generalizing widths with
  | nil => simp
  | cons s row ih =>
      cases widths with
      | nil => cases h
      | cons w widths =>
          rw [List.zipWith_cons_cons, List.flatten_cons, List.flatten_cons,
            markCount_append, markCount_append,
            ih (Nat.succ.inj h), padded, markCount_append, markCount_spaces, Nat.add_zero]

/-- The marks that a table is meant to show. -/
theorem markCount_alignedRows
    (s : DiagnosticSet) :
    markCount (alignedRows 4 (toldRows s)).flatten =
      markCount ((toldRows s).flatMap List.flatten) := by
  have hlength : ∀ row ∈ toldRows s,
      (columnWidths 4 (toldRows s)).length = row.length := by
    intro row hrow
    obtain ⟨texts, htexts, rfl⟩ := List.mem_map.mp hrow
    rw [columnWidths, List.length_map, List.length_map, List.length_range]
    rcases List.mem_cons.mp htexts with rfl | htexts
    · rfl
    · obtain ⟨d, -, rfl⟩ := List.mem_map.mp htexts
      rfl
  rw [alignedRows, ← List.flatMap_def]
  exact Nat.le_antisymm (markCount_flatMap_le fun row hrow =>
    (markCount_alignedRow (hlength row hrow)).le)
    (markCount_flatMap_le fun row hrow => (markCount_alignedRow (hlength row hrow)).ge)

end Tables

section Words

variable {r : LintResult} {screen : Screen}

theorem joinLines_of_tableText
    {s : DiagnosticSet} {lines : List (List Char)}
    (h : joinLines lines ++ ("\n" ++ countLine s ++ "\n") = tableText s) :
    joinLines lines = joinLines (alignedRows 4 (toldRows s)) := by
  rw [tableText] at h
  generalize "\n" ++ countLine s ++ "\n" = below at h
  have hchars := congrArg String.toList h
  rw [String.toList_append, String.toList_append, List.append_cancel_right_eq] at hchars
  exact String.toList_inj.mp hchars

/-- The table is what it is meant to be exactly if all locations and messages are seen as
they are. -/
theorem inWords_eq_tableText_iff
    (hstatus : r.status ≠ .error)
    (hfound : r.diagnostics.isNonempty = true)
    (hsound : r.diagnostics.Sound)
    (hfits : TableFits screen.output r.diagnostics) (document : String) :
    r.inWords screen document = .ok (.output (tableText r.diagnostics)) ↔
      ∀ d ∈ r.diagnostics.toList, ShowsVerbatim d := by
  constructor
  · intro h d hd
    by_contra hnot
    have hlost := markCount_seenRows_lt hsound.grouped hd hnot
    cases hrender : (table r.diagnostics).render screen.output with
    | error crash =>
        rw [inWords_of_found hstatus hfound, hrender] at h
        cases h
    | ok lines =>
        have hle := Table.markCount_render_le hrender
        rw [inWords_of_render hstatus hfound hfits.count_le hrender, Except.ok.injEq,
          Announcement.output.injEq] at h
        have hlines := joinLines_of_tableText h
        have hmarks := congrArg (fun text => markCount text.toList) hlines
        simp only [markCount_joinLines, markCount_alignedRows] at hmarks
        omega
  · intro h
    exact inWords_of_render hstatus hfound hfits.count_le
      (render_table_of_verbatim hsound hfits h) document

end Words

end LintResult
end HdlLint
