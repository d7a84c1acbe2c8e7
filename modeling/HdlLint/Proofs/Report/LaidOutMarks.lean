import HdlLint.Proofs.Report.AlignedTables
import HdlLint.Proofs.Report.SeenTexts

/-!
# Marks and the layout

Laying a text out on lines brings no mark into it: lines are parts of the text that follow
one another, and all that is put in is spaces and ellipses.  So what is shown of a table
holds no more marks than what is seen of its cells.

* `markCount_slices_le`: parts of a text that follow one another.
* `StyledText.markCount_wrap_le`: the lines of a text.
* `Table.markCount_render_le`: the lines of a table.
-/

namespace HdlLint
namespace Report

section Counts

variable {s t : List Char}

theorem markCount_nil :
    markCount [] = 0 :=
  rfl

theorem markCount_of_sublist
    (h : s.Sublist t) :
    markCount s ≤ markCount t :=
  h.countP_le

theorem markCount_spaces
    (n : Nat) :
    markCount (spaces n) = 0 := by
  have hspace : isMark ' ' = false := by decide
  simp [markCount, spaces, List.countP_replicate, hspace]

theorem markCount_flatMap_append
    {α : Type} (l : List α) (f g : α → List Char) :
    markCount (l.flatMap fun x => f x ++ g x) =
      markCount (l.flatMap f) + markCount (l.flatMap g) := by
  induction l with
  | nil => rfl
  | cons x l ih =>
      simp only [List.flatMap_cons, markCount_append] at *
      omega

theorem markCount_flatMap_le
    {α : Type} {l : List α} {f g : α → List Char}
    (h : ∀ x ∈ l, markCount (f x) ≤ markCount (g x)) :
    markCount (l.flatMap f) ≤ markCount (l.flatMap g) := by
  induction l with
  | nil => exact Nat.le_refl _
  | cons x l ih =>
      rw [List.forall_mem_cons] at h
      rw [List.flatMap_cons, List.flatMap_cons, markCount_append, markCount_append]
      exact Nat.add_le_add h.1 (ih h.2)

theorem markCount_flatMap_of_none
    {α : Type} {l : List α} {f : α → List Char}
    (h : ∀ x ∈ l, markCount (f x) = 0) :
    markCount (l.flatMap f) = 0 := by
  induction l with
  | nil => rfl
  | cons x l ih =>
      rw [List.forall_mem_cons] at h
      rw [List.flatMap_cons, markCount_append, h.1, ih h.2]

theorem markCount_zip_le
    {α β : Type} (l : List α) (l' : List β) (f : α → List Char) :
    markCount ((l.zip l').flatMap fun x => f x.1) ≤ markCount (l.flatMap f) := by
  induction l generalizing l' with
  | nil => exact Nat.le_refl _
  | cons x l ih =>
      cases l' with
      | nil => exact Nat.zero_le _
      | cons y l' =>
          rw [List.zip_cons_cons, List.flatMap_cons, List.flatMap_cons,
            markCount_append, markCount_append]
          exact Nat.add_le_add_left (ih l') _

end Counts

section Loops

variable {ε α β : Type} {f : α → Except ε β} {l : List α} {ys : List β}

theorem mapM_cons_eq_ok
    {x : α}
    (h : (x :: l).mapM f = .ok ys) :
    ∃ (y : β) (zs : List β), f x = .ok y ∧ l.mapM f = .ok zs ∧ ys = y :: zs := by
  rw [List.mapM_cons] at h
  cases hx : f x with
  | error e =>
      rw [hx] at h
      cases h
  | ok y =>
      cases hl : l.mapM f with
      | error e =>
          rw [hx, hl] at h
          cases h
      | ok zs =>
          rw [hx, hl] at h
          exact ⟨y, zs, rfl, rfl, (Except.ok.inj h).symm⟩

/-- What a loop gives, if it is known what its steps give. -/
theorem eq_map_of_mapM
    {g : α → β}
    (h : l.mapM f = .ok ys)
    (hg : ∀ x ∈ l, ∀ y : β, f x = .ok y → y = g x) :
    ys = l.map g := by
  induction l generalizing ys with
  | nil =>
      obtain rfl := Except.ok.inj h
      rfl
  | cons x l ih =>
      obtain ⟨y, zs, hy, hzs, rfl⟩ := mapM_cons_eq_ok h
      rw [List.map_cons, hg x List.mem_cons_self y hy,
        ih hzs fun z hz => hg z (List.mem_cons_of_mem _ hz)]

theorem markCount_mapM_le
    {made : β → List Char} {given : α → List Char}
    (h : l.mapM f = .ok ys)
    (hle : ∀ x ∈ l, ∀ y : β, f x = .ok y → markCount (made y) ≤ markCount (given x)) :
    markCount (ys.flatMap made) ≤ markCount (l.flatMap given) := by
  induction l generalizing ys with
  | nil =>
      obtain rfl := Except.ok.inj h
      exact Nat.le_refl _
  | cons x l ih =>
      obtain ⟨y, zs, hy, hzs, rfl⟩ := mapM_cons_eq_ok h
      rw [List.flatMap_cons, List.flatMap_cons, markCount_append, markCount_append]
      exact Nat.add_le_add (hle x List.mem_cons_self y hy)
        (ih hzs fun z hz => hle z (List.mem_cons_of_mem _ hz))

end Loops

section Slices

/-- Each range begins where the ranges before it have ended, or later. -/
def AreAscending (n : Nat) : List (Nat × Nat) → Prop
  | [] => True
  | (first, last) :: ranges => n ≤ first ∧ AreAscending (max first last) ranges

variable {n : Nat} {positions : List Nat} {ranges : List (Nat × Nat)}

theorem AreAscending.mono
    {m : Nat}
    (h : AreAscending n ranges)
    (hmn : m ≤ n) :
    AreAscending m ranges := by
  cases ranges with
  | nil => trivial
  | cons range ranges => exact ⟨hmn.trans h.1, h.2⟩

/-- The ranges between positions. -/
theorem areAscending_zip
    (h : (n :: positions).Pairwise (· ≤ ·)) (last : Nat) :
    AreAscending n ((n :: positions).zip (positions ++ [last])) := by
  induction positions generalizing n with
  | nil => exact ⟨Nat.le_refl n, trivial⟩
  | cons p positions ih =>
      rw [List.pairwise_cons] at h
      refine ⟨Nat.le_refl n, ?_⟩
      rw [Nat.max_eq_right (h.1 p List.mem_cons_self)]
      exact ih h.2

/-- The ranges between positions that are left out. -/
theorem areAscending_zip_succ
    (hle : ∀ p ∈ positions, n ≤ p)
    (h : positions.Pairwise (· < ·)) (last : Nat) :
    AreAscending n ((n :: positions.map (· + 1)).zip (positions ++ [last])) := by
  induction positions generalizing n with
  | nil => exact ⟨Nat.le_refl n, trivial⟩
  | cons p positions ih =>
      rw [List.pairwise_cons] at h
      have hp := hle p List.mem_cons_self
      refine ⟨Nat.le_refl n, ?_⟩
      exact (ih (n := p + 1) (fun q hq => h.1 q hq) h.2).mono (by omega)

/-- Parts of a text that follow one another hold no more marks than the text. -/
theorem markCount_slices_le
    (h : AreAscending n ranges) (t : StyledText) :
    markCount ((ranges.map fun r => t.slice r.1 r.2).flatMap StyledText.chars) ≤
      markCount (t.chars.drop n) := by
  induction ranges generalizing n with
  | nil => exact Nat.zero_le _
  | cons range ranges ih =>
      obtain ⟨first, last⟩ := range
      have hrest := ih h.2
      have hfirst : markCount (t.chars.drop first) ≤ markCount (t.chars.drop n) :=
        markCount_of_sublist (List.drop_sublist_drop_left _ h.1)
      have hsplit : markCount (t.chars.drop first) =
          markCount ((t.chars.drop first).take (last - first)) +
            markCount (t.chars.drop (max first last)) := by
        have hmax : max first last = first + (last - first) := by omega
        rw [hmax, ← List.drop_drop, ← markCount_append, List.take_append_drop]
      rw [List.map_cons, List.flatMap_cons, markCount_append]
      simp only [StyledText.slice] at hrest ⊢
      omega

end Slices

namespace StyledText

section Layout

variable {t : StyledText} {width : Nat}

theorem positionsOf_spec
    (c : Char) (n : Nat) (s : List Char) :
    (∀ p ∈ positionsOf c n s, n ≤ p) ∧ (positionsOf c n s).Pairwise (· < ·) := by
  induction s generalizing n with
  | nil => exact ⟨by simp [positionsOf], List.Pairwise.nil⟩
  | cons d s ih =>
      obtain ⟨hle, hlt⟩ := ih (n + 1)
      rw [positionsOf]
      split
      · refine ⟨List.forall_mem_cons.mpr
          ⟨Nat.le_refl n, fun p hp => (Nat.le_succ n).trans (hle p hp)⟩, ?_⟩
        exact List.pairwise_cons.mpr ⟨fun p hp => hle p hp, hlt⟩
      · exact ⟨fun p hp => (Nat.le_succ n).trans (hle p hp), hlt⟩

theorem markCount_lines_le
    (t : StyledText) :
    markCount (t.lines.flatMap chars) ≤ markCount t.chars := by
  obtain ⟨hle, hlt⟩ := positionsOf_spec '\n' 0 t.chars
  unfold lines
  split
  · simp
  · exact markCount_slices_le (areAscending_zip_succ hle hlt _) t

theorem markCount_divide_le
    {positions : List Nat}
    (h : positions.Pairwise (· ≤ ·)) (t : StyledText) :
    markCount ((t.divide positions).flatMap chars) ≤ markCount t.chars := by
  unfold divide
  split
  · simp
  · exact markCount_slices_le
      (areAscending_zip (List.pairwise_cons.mpr ⟨fun p _ => Nat.zero_le p, h⟩) _) t

theorem chars_joined
    (ts : List StyledText) :
    (joined ts).chars = ts.flatMap chars := by
  induction ts with
  | nil => rfl
  | cons t ts ih => rw [joined, List.flatMap_cons, ih]

theorem markCount_fillTab_le
    (cell : Nat) (t : StyledText) :
    markCount (fillTab cell t).2.chars ≤ markCount t.chars := by
  have hspace : markCount [' '] = 0 := by decide
  have hlast := markCount_of_sublist (List.dropLast_sublist t.chars)
  simp only [fillTab, markCount_append, markCount_spaces, hspace]
  omega

theorem markCount_fillTabs_le
    (cell : Nat) (ts : List StyledText) :
    markCount ((fillTabs cell ts).flatMap chars) ≤ markCount (ts.flatMap chars) := by
  induction ts generalizing cell with
  | nil => exact Nat.le_refl _
  | cons t ts ih =>
      cases ts with
      | nil =>
          unfold fillTabs
          split
          · exact Nat.zero_le _
          · exact Nat.le_refl _
      | cons u ts =>
          rw [fillTabs, List.flatMap_cons, List.flatMap_cons,
            markCount_append, markCount_append]
          · exact Nat.add_le_add (markCount_fillTab_le cell t) (ih _)
          · simp

theorem markCount_expandTabs_le
    (t : StyledText) :
    markCount t.expandTabs.chars ≤ markCount t.chars := by
  unfold expandTabs
  split
  · exact Nat.le_refl _
  · have htabs : ((positionsOf '\t' 0 t.chars).map (· + 1)).Pairwise (· ≤ ·) := by
      refine List.pairwise_map.mpr ((positionsOf_spec '\t' 0 t.chars).2.imp fun h => ?_)
      omega
    rw [chars_joined]
    exact (markCount_fillTabs_le 0 _).trans (markCount_divide_le htabs t)

theorem markCount_withoutOverhang_le
    (width : Nat) (t : StyledText) :
    markCount (t.withoutOverhang width).chars ≤ markCount t.chars := by
  unfold withoutOverhang
  simp only
  split
  · exact Nat.le_refl _
  · exact markCount_of_sublist (List.take_sublist _ _)

end Layout

end StyledText

section Cutting

theorem markCount_takeCells_le
    (n : Nat) (parts : List Grapheme) :
    markCount (takeCells n parts) ≤ markCount (parts.flatMap Grapheme.text) := by
  have hspace : markCount [' '] = 0 := by decide
  induction parts generalizing n with
  | nil => cases n <;> exact Nat.zero_le _
  | cons g parts ih =>
      cases n with
      | zero => exact Nat.zero_le _
      | succ n =>
          rw [takeCells, List.flatMap_cons, markCount_append]
          split
          · rw [markCount_append]
            exact Nat.add_le_add_left (ih _) _
          · rw [hspace]
            exact Nat.zero_le _

theorem markCount_fitCells_le
    (total : Nat) (s : List Char) :
    markCount (fitCells total s) ≤ markCount s := by
  unfold fitCells
  split
  · exact Nat.zero_le _
  split
  · rw [markCount_append, markCount_spaces, Nat.add_zero]
  · have hcut := markCount_takeCells_le total (graphemes s)
    rwa [graphemes_text] at hcut

theorem markCount_cropSegments_le
    (width : Nat) (segments : List (List Char)) :
    markCount (cropSegments width segments).flatten ≤ markCount segments.flatten := by
  induction segments generalizing width with
  | nil => exact Nat.le_refl _
  | cons s segments ih =>
      rw [cropSegments, List.flatten_cons, markCount_append]
      split
      · rw [List.flatten_cons, markCount_append]
        exact Nat.add_le_add_left (ih _) _
      · rw [List.flatten_singleton]
        exact (markCount_fitCells_le width s).trans (Nat.le_add_right _ _)

theorem markCount_fitLine_le
    (width : Nat) (filled : Bool) (segments : List (List Char)) :
    markCount (fitLine width filled segments).flatten ≤ markCount segments.flatten := by
  unfold fitLine
  simp only
  split
  · split
    · rw [List.flatten_append, markCount_append, List.flatten_singleton,
        markCount_spaces, Nat.add_zero]
    · exact Nat.le_refl _
  split
  · exact markCount_cropSegments_le width segments
  · exact Nat.le_refl _

end Cutting

namespace StyledText

theorem chars_withChars
    (t : StyledText) (s : List Char) :
    (t.withChars s).chars = s := by
  unfold withChars
  split <;> rfl

theorem markCount_fit_le
    (width : Nat) (overflow : Overflow) (t : StyledText) :
    markCount (t.fit width overflow).chars ≤ markCount t.chars := by
  have hellipsis : markCount ['…'] = 0 := by decide
  unfold fit
  cases overflow with
  | fold =>
      simp only
      split
      · exact Nat.le_refl _
      · rw [chars_withChars]
        exact markCount_fitCells_le width t.chars
  | ellipsis =>
      simp only
      split
      · rw [markCount_append, markCount_spaces, Nat.add_zero]
      · rw [chars_withChars, markCount_append, hellipsis]
        exact markCount_fitCells_le _ _

/-- The breaks of a line that is cut where it is too long. -/
theorem breaks_spec
    (width start taken : Nat) (words : List (List Char)) :
    (∀ p ∈ breaks width .ellipsis start taken words, start ≤ p) ∧
    (breaks width .ellipsis start taken words).Pairwise (· ≤ ·) := by
  induction words generalizing start taken with
  | nil => exact ⟨by simp [breaks], List.Pairwise.nil⟩
  | cons w words ih =>
      have hlater : ∀ taken : Nat,
          (∀ p ∈ breaks width .ellipsis (start + w.length) taken words, start ≤ p) ∧
          (breaks width .ellipsis (start + w.length) taken words).Pairwise (· ≤ ·) := by
        intro taken
        obtain ⟨hstart, hordered⟩ := ih (start + w.length) taken
        exact ⟨fun p hp => (Nat.le_add_right _ _).trans (hstart p hp), hordered⟩
      have hbroken : ∀ taken : Nat,
          (∀ p ∈ pieceStarts start [w] ++
            breaks width .ellipsis (start + w.length) taken words, start ≤ p) ∧
          (pieceStarts start [w] ++
            breaks width .ellipsis (start + w.length) taken words).Pairwise (· ≤ ·) := by
        intro taken
        by_cases hstart : start = 0
        · simpa [pieceStarts, hstart] using hlater taken
        · simp only [pieceStarts, if_neg hstart, List.append_nil, List.singleton_append]
          exact ⟨List.forall_mem_cons.mpr ⟨Nat.le_refl _, (hlater taken).1⟩,
            List.pairwise_cons.mpr (hlater taken)⟩
      simp only [breaks]
      split
      · exact hlater _
      split
      · exact hbroken _
      split
      · exact hlater _
      · exact hbroken _

/-- The lines of a text hold no more marks than the text. -/
theorem markCount_wrap_le
    (width : Nat) (t : StyledText) :
    markCount ((t.wrap width .ellipsis).flatMap chars) ≤ markCount t.chars := by
  refine Nat.le_trans ?_ (markCount_lines_le t)
  rw [wrap, List.flatMap_assoc]
  refine markCount_flatMap_le fun line _ => ?_
  rw [List.flatMap_map]
  refine (markCount_flatMap_le (g := chars) fun l _ => ?_).trans
    ((markCount_divide_le (breaks_spec width 0 0 _).2 _).trans
      (markCount_expandTabs_le line))
  exact (markCount_fit_le _ _ _).trans (markCount_withoutOverhang_le _ _)

end StyledText

namespace Column

/-- The lines of a cell hold no more marks than what is seen of it. -/
theorem markCount_cellLines_le
    {c : Column} {width : Nat} {t : StyledText} {lines : List (List Char)}
    (h : c.cellLines width t = .ok lines) :
    markCount lines.flatten ≤ markCount t.chars := by
  unfold cellLines at h
  cases hchecked : Markup.checkStyles (t.wrap (width - c.left - c.right) .ellipsis) with
  | error crash =>
      simp only [bind, Except.bind, hchecked] at h
      cases h
  | ok checked =>
      simp only [bind, Except.bind, hchecked] at h
      obtain rfl := Except.ok.inj h
      refine Nat.le_trans ?_ (StyledText.markCount_wrap_le (width - c.left - c.right) t)
      rw [← List.flatMap_def]
      refine markCount_flatMap_le fun l _ => (markCount_fitLine_le _ _ _).trans ?_
      have hsides : ∀ n : Nat,
          markCount (if n = 0 then [] else [spaces n]).flatten = 0 := by
        intro n
        split <;> simp [markCount_spaces, markCount_nil]
      have hline := markCount_fitLine_le (width - c.left - c.right) true l.segments
      rw [StyledText.segments_text] at hline
      simp only [List.flatten_append, markCount_append, hsides]
      omega

end Column

namespace Table

section Rows

theorem markCount_getD_le
    (width height : Nat) (lines : List (List Char)) :
    markCount ((List.range height).flatMap fun i => lines.getD i (spaces width)) ≤
      markCount lines.flatten := by
  induction lines generalizing height with
  | nil =>
      exact (markCount_flatMap_of_none fun i _ => markCount_spaces width).le.trans
        (Nat.zero_le _)
  | cons line lines ih =>
      cases height with
      | zero => exact Nat.zero_le _
      | succ height =>
          rw [List.range_succ_eq_map, List.flatMap_cons, List.flatMap_map,
            List.flatten_cons, markCount_append, markCount_append]
          exact Nat.add_le_add_left (ih height) _

theorem markCount_rows_le
    (height : Nat) (cells : List (Nat × List (List Char))) :
    markCount ((List.range height).flatMap fun i => cells.flatMap fun c =>
      c.2.getD i (spaces c.1)) ≤
      markCount (cells.flatMap fun c => c.2.flatten) := by
  induction cells with
  | nil => exact (markCount_flatMap_of_none fun i _ => markCount_nil).le
  | cons c cells ih =>
      simp only [List.flatMap_cons]
      rw [markCount_flatMap_append, markCount_append]
      exact Nat.add_le_add (markCount_getD_le c.1 height c.2) ih

/-- The lines of a row hold no more marks than what is seen of its cells. -/
theorem markCount_rowLines_le
    {columns : List (Column × Nat)} {k : Nat} {lines : List (List Char)}
    (h : rowLines columns k = .ok lines) :
    markCount lines.flatten ≤
      markCount (columns.flatMap fun c => (c.1.cells.getD k ⟨[], []⟩).chars) := by
  unfold rowLines at h
  cases hcells : columns.mapM fun c =>
    do pure (c.2, ← c.1.cellLines c.2 (c.1.cells.getD k ⟨[], []⟩)) with
  | error crash =>
      rw [hcells] at h
      cases h
  | ok cells =>
      rw [hcells] at h
      obtain rfl := Except.ok.inj h
      rw [← List.flatMap_def]
      refine (markCount_rows_le _ cells).trans
        (markCount_mapM_le hcells fun c _ cell hcell => ?_)
      cases hline : c.1.cellLines c.2 (c.1.cells.getD k ⟨[], []⟩) with
      | error crash =>
          rw [hline] at hcell
          cases hcell
      | ok lines =>
          rw [hline] at hcell
          obtain rfl := Except.ok.inj hcell
          exact Column.markCount_cellLines_le hline

end Rows

section Tables

variable {t : Table}

/-- The columns of a table whose cells are all shown. -/
theorem eq_of_columns
    {columns : List Column}
    (h : t.columns = .ok columns) :
    columns = (List.range t.header.length).map t.columnAt := by
  refine eq_map_of_mapM h fun i _ c hc => ?_
  cases hcells : (t.header :: t.rows).mapM fun row => Markup.render (row.getD i "") with
  | error crash =>
      simp only [hcells] at hc
      cases hc
  | ok cells =>
      simp only [hcells] at hc
      obtain rfl := Except.ok.inj hc
      rw [columnAt, eq_map_of_mapM hcells fun row _ text htext => ?_]
      rw [look, htext]

/-- What is seen of the cells of a row, column by column. -/
theorem flatMap_cells
    {k : Nat} {row : List String}
    (h : (t.header :: t.rows)[k]? = some row) :
    ((List.range t.header.length).map t.columnAt).flatMap
      (fun c => (c.cells.getD k ⟨[], []⟩).chars) =
      ((List.range t.header.length).map fun i =>
        (look (row.getD i "")).chars).flatten := by
  rw [List.flatMap_map, ← List.flatMap_def]
  exact List.flatMap_congr fun i _ => congrArg StyledText.chars (getD_cells_columnAt h i)

/-- The lines of a table hold no more marks than what is seen of its cells. -/
theorem markCount_render_le
    {screen : Nat} {lines : List (List Char)}
    (h : t.render screen = .ok lines) :
    markCount lines.flatten ≤ markCount (t.seenRows.flatMap List.flatten) := by
  unfold render at h
  cases hcolumns : t.columns with
  | error crash =>
      rw [hcolumns] at h
      cases h
  | ok columns =>
      obtain rfl := eq_of_columns hcolumns
      rw [hcolumns] at h
      simp only [bind, Except.bind] at h
      cases hrows : (List.range (t.rows.length + 1)).mapM (rowLines
          (((List.range t.header.length).map t.columnAt).zip
            (widths screen ((List.range t.header.length).map t.columnAt)))) with
      | error crash =>
          rw [hrows] at h
          cases h
      | ok rows =>
          rw [hrows] at h
          obtain rfl := Except.ok.inj h
          have hseen : t.seenRows.flatMap List.flatten =
              (List.range (t.rows.length + 1)).flatMap fun k =>
                ((List.range t.header.length).map fun i =>
                  (look (((t.header :: t.rows).getD k []).getD i "")).chars).flatten := by
            rw [seenRows, List.flatMap_map, List.flatMap_def,
              List.flatMap_def, ← map_range_getD (t.header :: t.rows) [],
              List.length_cons]
          rw [List.flatten_flatten, ← List.flatMap_def, hseen]
          refine markCount_mapM_le hrows fun k hk lines hlines => ?_
          have hlt : k < (t.header :: t.rows).length := List.mem_range.mp hk
          have hrow : (t.header :: t.rows)[k]? =
              some ((t.header :: t.rows).getD k []) := by
            rw [List.getD_eq_getElem _ _ hlt, List.getElem?_eq_getElem hlt]
          rw [← flatMap_cells hrow]
          exact (markCount_rowLines_le hlines).trans
            (markCount_zip_le _ _ fun c : Column => (c.cells.getD k ⟨[], []⟩).chars)

end Tables

end Table

end Report
end HdlLint
