import HdlLint.Proofs.Path.Components
import HdlLint.Proofs.Report.CellCounts
import HdlLint.Proofs.Report.ShownTables

/-!
# Cells that fit

A text without line ends and tabs is laid out on one line if that is wide enough: nothing
is broken or cut, and what the line lacks is filled up with spaces.

* `StyledText.wrap_of_fits`: such a text is not broken.
* `Column.cellLines_of_fits`: the line of a cell, with the spaces on both sides.
-/

namespace HdlLint
namespace Report

/-- A character that takes one cell whatever stands beside it. -/
def IsNarrow (c : Char) : Prop :=
  0x20 ≤ c.toNat ∧ c.toNat ≤ 0x7E

/-- A text that is laid out as it is where there is room for it: it holds no line end and
no tab, and it ends neither in a blank nor in a joiner. -/
structure IsLine (s : List Char) : Prop where
  no_line_end : ∀ c ∈ s, endsLine c = false
  no_tab : '\t' ∉ s
  ends_visibly : Text.dropEndWhile Text.isBlank s = s
  ends_unjoined : EndsUnjoined s

instance decidableIsLine : DecidablePred IsLine := fun s =>
  decidable_of_iff
    ((s.all fun c => !endsLine c) = true ∧ '\t' ∉ s ∧
      Text.dropEndWhile Text.isBlank s = s ∧ s.getLast? ≠ some joiner)
    (by
      simp only [List.all_eq_true, Bool.not_eq_true']
      exact ⟨fun ⟨hends, htab, hvisibly, hunjoined⟩ => ⟨hends, htab, hvisibly, hunjoined⟩,
        fun ⟨hends, htab, hvisibly, hunjoined⟩ => ⟨hends, htab, hvisibly, hunjoined⟩⟩)

/-- A line in styles that can be looked up, whose spans do not change how its cells are
counted. -/
structure StyledText.IsOneLine (t : StyledText) : Prop extends IsLine t.chars where
  counts_evenly : t.spans = [] ∨ ∀ c ∈ t.chars, IsNarrow c
  sound : t.Sound

theorem IsLine.isOneLine
    {s : List Char}
    (h : IsLine s) :
    StyledText.IsOneLine ⟨s, []⟩ where
  toIsLine := h
  counts_evenly := Or.inl rfl
  sound := StyledText.sound_of_spans_nil s

section Lines

variable {s : List Char}

theorem dropEndWhile_of_last
    {p : Char → Bool}
    (h : ∀ c ∈ s.getLast?, p c = false) :
    Text.dropEndWhile p s = s := by
  rcases List.eq_nil_or_concat' s with rfl | ⟨t, c, rfl⟩
  · rfl
  · have hc := h c (by simp)
    simp [Text.dropEndWhile, hc]

theorem IsNarrow.endsLine
    {c : Char}
    (h : IsNarrow c) :
    endsLine c = false := by
  obtain ⟨hlow, hhigh⟩ := h
  have hne : ∀ d : Char, d.toNat < 0x20 → c ≠ d := by
    rintro d hd rfl
    omega
  simp only [Report.endsLine, hne '\n' (by decide), hne '\r' (by decide),
    hne '\x0B' (by decide), hne '\x0C' (by decide),
    decide_false, Bool.false_or, Bool.or_eq_false_iff, Bool.and_eq_false_iff,
      decide_eq_false_iff_not]
  omega

theorem IsNarrow.isBlank
    {c : Char}
    (h : IsNarrow c)
    (hspace : c ≠ ' ') :
    Text.isBlank c = false := by
  obtain ⟨hlow, hhigh⟩ := h
  have hne : c.toNat ≠ 0x20 := fun hc => hspace (Char.toNat_inj.mp hc)
  simp only [Text.isBlank, Text.isSpace, Text.isAsciiBlank, Bool.or_eq_false_iff,
    Bool.and_eq_false_iff,
    decide_eq_false_iff_not]
  omega

/-- Printable characters of ASCII that do not end in a space are laid out as they are. -/
theorem isLine_of_narrow
    (h : ∀ c ∈ s, IsNarrow c)
    (hlast : s.getLast? ≠ some ' ') :
    IsLine s where
  no_line_end := fun c hc => (h c hc).endsLine
  no_tab := fun hmem => absurd (h _ hmem).1 (by decide)
  ends_visibly := by
    refine dropEndWhile_of_last fun c hc => (h c (List.mem_of_getLast? hc)).isBlank ?_
    rintro rfl
    exact hlast hc
  ends_unjoined :=
    fun hjoiner => absurd (h _ (List.mem_of_getLast? hjoiner)).2 (by decide)

end Lines

section Segments

theorem cellsOfSegments_eq_sum
    (segments : List (List Char)) :
    cellsOfSegments segments = (segments.map cellCount).sum := by
  have hfold : ∀ n : Nat, segments.foldl (fun n s => n + cellCount s) n =
      n + (segments.map cellCount).sum := by
    induction segments with
    | nil => simp
    | cons s segments ih =>
        intro n
        rw [List.foldl_cons, ih, List.map_cons, List.sum_cons, Nat.add_assoc]
  rw [cellsOfSegments, hfold, Nat.zero_add]

theorem cutAt_nil
    (n : Nat) (s : List Char) :
    StyledText.cutAt [] n s = if s = [] then [] else [s] := by
  induction s generalizing n with
  | nil => rfl
  | cons c s ih =>
      rw [StyledText.cutAt, ih]
      by_cases hs : s = [] <;> simp [hs]

/-- The cells of the segments of a text are those of the text, if spans do not matter. -/
theorem cellsOfSegments_segments
    {t : StyledText}
    (h : t.spans = [] ∨ ∀ c ∈ t.chars, IsNarrow c) :
    cellsOfSegments t.segments = cellCount t.chars := by
  rw [cellsOfSegments_eq_sum]
  rcases h with h | h
  · rw [StyledText.segments, h, List.flatMap_nil, cutAt_nil]
    split
    · rename_i hnone
      rw [hnone]
      rfl
    · simp
  · have hsegments : t.segments.map cellCount = t.segments.map List.length := by
      refine List.map_congr_left fun s hs => cellCount_of_ascii fun c hc => h c ?_
      rw [← t.segments_text]
      exact List.mem_flatten.mpr ⟨s, hs, hc⟩
    rw [hsegments, ← List.length_flatten, t.segments_text, cellCount_of_ascii h]

/-- A line of the width that is asked for stays as it is. -/
theorem fitLine_of_eq
    {width : Nat} {segments : List (List Char)}
    (h : cellsOfSegments segments = width) (filled : Bool) :
    fitLine width filled segments = segments := by
  simp [fitLine, h]

theorem fitLine_of_le
    {width : Nat} {segments : List (List Char)}
    (h : cellsOfSegments segments ≤ width) :
    fitLine width false segments = segments := by
  rw [fitLine]
  split
  · rfl
  · rw [if_neg (by omega)]

end Segments

namespace StyledText

section Lines

variable {t : StyledText} {width : Nat}

theorem positionsOf_of_not_mem
    {c : Char} {s : List Char}
    (h : c ∉ s) (n : Nat) :
    positionsOf c n s = [] := by
  induction s generalizing n with
  | nil => rfl
  | cons d s ih =>
      rw [List.mem_cons, not_or] at h
      rw [positionsOf, if_neg (Ne.symm h.1), ih h.2]

theorem lines_of_no_newline
    (h : '\n' ∉ t.chars) :
    t.lines = [t] := by
  rw [lines, positionsOf_of_not_mem h]

theorem expandTabs_of_no_tab
    (h : '\t' ∉ t.chars) :
    t.expandTabs = t := by
  rw [expandTabs, positionsOf_of_not_mem h]

/-- A text is laid out line by line. -/
theorem wrap_eq_flatMap_lines
    (h : ∀ l ∈ t.lines, '\n' ∉ l.chars) (width : Nat) (overflow : Overflow) :
    t.wrap width overflow = t.lines.flatMap fun l => l.wrap width overflow := by
  refine List.flatMap_congr fun l hl => ?_
  rw [wrap, lines_of_no_newline (h l hl), List.flatMap_singleton]

/-- The lines of a text that begins with a line feed. -/
theorem lines_newline_cons
    {u : List Char}
    (h : '\n' ∉ u) :
    lines ⟨'\n' :: u, []⟩ = [⟨[], []⟩, ⟨u, []⟩] := by
  have hends : positionsOf '\n' 0 ('\n' :: u) = [0] := by
    rw [positionsOf, if_pos rfl, positionsOf_of_not_mem h]
  rw [lines, hends]
  simp [slice]

theorem IsOneLine.newline_not_mem
    (h : t.IsOneLine) :
    '\n' ∉ t.chars :=
  fun hmem => absurd (h.no_line_end _ hmem) (by decide)

theorem breaks_of_cellCount_le
    {s : List Char}
    (h : cellCount s ≤ width) (overflow : Overflow) :
    breaks width overflow 0 0 (wordsWithBlanks [] false s) = [] := by
  have hwords : ((wordsWithBlanks [] false s).map cellCount).sum ≤ cellCount s :=
    sum_cellCount_wordsWithBlanks_le (by simp) s
  exact breaks_of_fits (by omega) overflow 0

theorem withoutOverhang_of_ends_visibly
    (h : Text.dropEndWhile Text.isBlank t.chars = t.chars) (width : Nat) :
    t.withoutOverhang width = t := by
  simp [withoutOverhang, h]

theorem wrap_of_fits
    (h : t.IsOneLine)
    (hwidth : cellCount t.chars ≤ width) (overflow : Overflow) :
    t.wrap width overflow = [t.fit width overflow] := by
  simp only [wrap, lines_of_no_newline h.newline_not_mem, List.flatMap_singleton,
    expandTabs_of_no_tab h.no_tab,
    breaks_of_cellCount_le hwidth, divide, List.isEmpty_nil, if_true, List.map_singleton,
    withoutOverhang_of_ends_visibly h.ends_visibly]

theorem fit_ellipsis_of_fits
    (hwidth : cellCount t.chars ≤ width) :
    t.fit width .ellipsis = ⟨t.chars ++ spaces (width - cellCount t.chars), t.spans⟩ := by
  simp [fit, hwidth]

theorem fit_fold_of_fits
    (hwidth : cellCount t.chars ≤ width) :
    t.fit width .fold = t := by
  simp [fit, hwidth]

theorem isNarrow_of_mem_spaces
    {n : Nat} {c : Char}
    (h : c ∈ spaces n) :
    IsNarrow c := by
  obtain rfl := List.eq_of_mem_replicate h
  exact ⟨by decide, by decide⟩

/-- The segments of a line that is filled up take as many cells as the line is wide. -/
theorem IsOneLine.cellsOfSegments_filled
    (h : t.IsOneLine)
    (hwidth : cellCount t.chars ≤ width) :
    cellsOfSegments (segments ⟨t.chars ++ spaces (width - cellCount t.chars), t.spans⟩) =
      width := by
  rw [cellsOfSegments_segments]
  · rw [cellCount_append_spaces h.ends_unjoined]
    omega
  · rcases h.counts_evenly with hspans | hnarrow
    · exact Or.inl hspans
    · refine Or.inr fun c hc => ?_
      exact (List.mem_append.mp hc).elim (hnarrow c) isNarrow_of_mem_spaces

end Lines

end StyledText

namespace Column

/-- The line of a cell, with the spaces on both sides. -/
theorem cellLines_of_fits
    {t : StyledText} {c : Column} {inner : Nat}
    (h : t.IsOneLine)
    (hinner : cellCount t.chars ≤ inner) :
    c.cellLines (inner + c.left + c.right) t =
      .ok [spaces c.left ++ (t.chars ++ spaces (inner - cellCount t.chars)) ++
        spaces c.right] := by
  have hsides : ∀ n : Nat, cellsOfSegments (if n = 0 then [] else [spaces n]) = n ∧
      (if n = 0 then [] else [spaces n]).flatten = spaces n := by
    intro n
    rw [cellsOfSegments_eq_sum]
    by_cases hn : n = 0
    · subst hn
      exact ⟨rfl, rfl⟩
    · simp [hn, cellCount_spaces]
  have hwidth : inner + c.left + c.right - c.left - c.right = inner := by omega
  have hfilled := h.cellsOfSegments_filled hinner
  have hwrap := StyledText.wrap_of_fits h hinner .ellipsis
  have hchecked := h.sound.checkStyles_wrap inner .ellipsis
  rw [hwrap, StyledText.fit_ellipsis_of_fits hinner] at hchecked
  have hline : cellsOfSegments ((if c.left = 0 then [] else [spaces c.left]) ++
      StyledText.segments ⟨t.chars ++ spaces (inner - cellCount t.chars), t.spans⟩ ++
      (if c.right = 0 then [] else [spaces c.right])) = inner + c.left + c.right := by
    have hleft := (hsides c.left).1
    have hright := (hsides c.right).1
    simp only [cellsOfSegments_eq_sum, List.map_append, List.sum_append] at *
    omega
  unfold cellLines
  simp only [hwidth, bind, Except.bind, hwrap, StyledText.fit_ellipsis_of_fits hinner,
    hchecked, List.map_singleton,
    fitLine_of_eq hfilled, fitLine_of_eq hline, List.flatten_append, (hsides _).2,
      StyledText.segments_text]
  rfl

end Column

end Report
end HdlLint
