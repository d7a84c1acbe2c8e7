import HdlLint.Proofs.Text.SplitTexts

/-!
# Pieces and segments

Line feeds cut a text into segments.  The pieces of a text are its segments, each but the
last without the carriage return that its line end begins with.  The last segment has no
line end, so that a carriage return at its end belongs to it, and of several carriage
returns before a line feed only one is taken.

* `linePieces_eq_segments`: the pieces and the segments of a text.
* `splitLines_eq_segments`: the lines of a text are its segments.
* `newline_not_mem_of_mem_linePieces`: no piece holds a line feed.
* `splitLines_lines_and_texts`: splitting joined lines, and splitting any text.
-/

namespace HdlLint
namespace Text

/-- The segments of a text between line feeds, each but the last without the carriage
return at its end. -/
def segments (text : String) : List String :=
  ((text.toList.splitOn '\n').dropLast.map withoutReturn ++
    (text.toList.splitOn '\n').getLast?.toList).map
    String.ofList

section Segments

variable {piece : List Char}

theorem mem_of_mem_withoutReturn
    {line : List Char} {c : Char}
    (h : c ∈ withoutReturn line) :
    c ∈ line := by
  unfold withoutReturn at h
  split at h
  · exact List.mem_of_mem_dropLast h
  · exact h

/-- No piece holds a line feed. -/
theorem newline_not_mem_of_mem_linePieces
    {s : List Char}
    (h : piece ∈ linePieces s) :
    '\n' ∉ piece := by
  induction s using lineInduction with
  | last line hline =>
      rw [linePieces_line hline] at h
      obtain rfl := List.mem_singleton.mp h
      exact hline
  | more line rest hline ih =>
      rw [linePieces_line_newline hline] at h
      rcases List.mem_cons.mp h with rfl | hrest
      · exact fun hfeed => hline (mem_of_mem_withoutReturn hfeed)
      · exact ih hrest

/-- The pieces of a text are its segments, each but the last without the carriage return
at its end. -/
theorem linePieces_eq_segments
    (s : List Char) :
    linePieces s =
      (s.splitOn '\n').dropLast.map withoutReturn ++
        (s.splitOn '\n').getLast?.toList := by
  induction s using lineInduction with
  | last line hline =>
      rw [linePieces_line hline, List.splitOn_eq_singleton hline]
      rfl
  | more line rest hline ih =>
      have hsegments : rest.splitOn '\n' ≠ [] := List.splitOn_ne_nil '\n' rest
      rw [linePieces_line_newline hline, List.splitOn_append_cons_self_of_not_mem hline,
        List.dropLast_cons_of_ne_nil hsegments,
          List.getLast?_cons_of_ne_nil hsegments, ih]
      rfl

theorem splitLines_eq_segments
    (text : String) :
    splitLines text = segments text := by
  rw [splitLines, linePieces_eq_segments, segments]

/-- Lines that were joined by line ends of either kind are found again, if none holds a
line feed and none but the last ends in a carriage return.  Any text has one piece more
than it has line feeds; no piece holds a line feed, and the pieces are the segments
between line feeds, without the carriage return at the end of all but the last. -/
theorem splitLines_lines_and_texts :
    (∀ lines : List (String × LineEnd),
      lines ≠ [] → (∀ l ∈ lines, '\n' ∉ l.1.toList) →
        (∀ l ∈ lines.dropLast, l.1.toList.getLast? ≠ some '\r') →
        splitLines (joinLines lines) = lines.map (·.1)) ∧
    ∀ text : String,
      (splitLines text).length = text.toList.count '\n' + 1 ∧
      (∀ piece ∈ splitLines text, '\n' ∉ piece.toList) ∧
      (splitLines text).map String.toList =
        (text.toList.splitOn '\n').dropLast.map withoutReturn ++
          (text.toList.splitOn '\n').getLast?.toList := by
  refine ⟨fun lines hne hline hcr => splitLines_joinLines hne hline hcr,
    fun text => ⟨?_, ?_, ?_⟩⟩
  · rw [splitLines, List.length_map, length_linePieces]
  · intro piece hpiece
    obtain ⟨s, hs, rfl⟩ := List.mem_map.mp hpiece
    rw [String.toList_ofList]
    exact newline_not_mem_of_mem_linePieces hs
  · rw [splitLines, List.map_map, ← linePieces_eq_segments]
    exact List.map_id'' (fun _ => String.toList_ofList) _

/-- Three lines, the second one empty, with a carriage return inside the first and one at
the end of the last. -/
theorem splitLines_lines_and_texts_returns :
    let lines : List (String × LineEnd) := [("a\rb", .crlf), ("", .lf), ("c\r", .lf)]
    lines ≠ [] ∧ (∀ l ∈ lines, '\n' ∉ l.1.toList) ∧
      (∀ l ∈ lines.dropLast, l.1.toList.getLast? ≠ some '\r') ∧
    splitLines "a\rb\r\n\nc\r" = ["a\rb", "", "c\r"] ∧
    ∀ piece ∈ ["a\rb", "", "c\r"], '\n' ∉ piece.toList := by
  intro lines
  have hne : lines ≠ [] := by
    decide
  have hline : ∀ l ∈ lines, '\n' ∉ l.1.toList := by
    decide
  have hcr : ∀ l ∈ lines.dropLast, l.1.toList.getLast? ≠ some '\r' := by
    decide
  obtain ⟨hlines, htexts⟩ := splitLines_lines_and_texts
  have hsplit : splitLines "a\rb\r\n\nc\r" = ["a\rb", "", "c\r"] :=
    hlines lines hne hline hcr
  obtain ⟨-, hfree, -⟩ := htexts "a\rb\r\n\nc\r"
  rw [hsplit] at hfree
  exact ⟨hne, hline, hcr, hsplit, hfree⟩

end Segments

end Text
end HdlLint
