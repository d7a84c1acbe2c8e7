import HdlLint.Proofs.Report.FittingCells
import Mathlib.Data.List.GetD

/-!
# Tables that fit

A table of which every cell fits on one line, and which is no wider than the screen, is
shown row by row: each row is one line, in which the texts stand below those of the rows
before.

* `alignedRows`: texts in columns.
* `Table.Fits`: what a table must be like.
* `Table.Fits.rowLines_eq`: a row is shown on one line.
* `Table.render_of_fits`: what is shown of the whole table.
-/

namespace HdlLint
namespace Report

/-- A text with as many spaces behind it as it lacks of a number of cells. -/
def padded (width : Nat) (s : List Char) : List Char :=
  s ++ spaces (width - cellCount s)

/-- The cells that the widest text of each column takes. -/
def columnWidths (columns : Nat) (rows : List (List (List Char))) : List Nat :=
  (List.range columns).map fun i =>
    (rows.map fun row => cellCount (row.getD i [])).foldl max 0

/-- Texts side by side, each filled up to the width of its column, two spaces apart. -/
def alignedRow (widths : List Nat) (row : List (List Char)) : List Char :=
  [' ', ' '].intercalate (List.zipWith padded widths row)

/-- Rows of texts, each of them on a line. -/
def alignedRows (columns : Nat) (rows : List (List (List Char))) : List (List Char) :=
  rows.map (alignedRow (columnWidths columns rows))

section Lists

theorem mapM_eq_map
    {ε α β : Type} {f : α → Except ε β} {g : α → β} {l : List α}
    (h : ∀ x ∈ l, f x = .ok (g x)) :
    l.mapM f = .ok (l.map g) := by
  induction l with
  | nil => rfl
  | cons x l ih =>
      rw [List.mapM_cons, h x List.mem_cons_self,
        ih fun y hy => h y (List.mem_cons_of_mem _ hy)]
      rfl

theorem le_foldl_max
    {l : List Nat} {x : Nat}
    (h : x ∈ l) (start : Nat) :
    x ≤ l.foldl max start := by
  have hstart : ∀ (l : List Nat) (start : Nat), start ≤ l.foldl max start := by
    intro l
    induction l with
    | nil => exact Nat.le_refl
    | cons y l ih => exact fun start => (Nat.le_max_left start y).trans (ih _)
  induction l generalizing start with
  | nil => cases h
  | cons y l ih =>
      rcases List.mem_cons.mp h with rfl | h
      · exact (Nat.le_max_right start x).trans (hstart l _)
      · exact ih h _

theorem map_range_getD
    {α β : Type} (l : List α) (d : α) (f : α → β) :
    (List.range l.length).map (fun k => f (l.getD k d)) = l.map f := by
  refine List.ext_getElem (by simp) fun k hk hk' => ?_
  rw [List.length_map] at hk'
  rw [List.getElem_map, List.getElem_map, List.getElem_range,
    List.getD_eq_getElem l d hk']

theorem totalWidth_eq_sum
    (widths : List Nat) :
    totalWidth widths = widths.sum := by
  rw [totalWidth, List.sum_eq_foldl]

theorem intercalate_concat
    {α : Type} {l : List (List α)}
    (h : l ≠ []) (separator a : List α) :
    separator.intercalate (l ++ [a]) = separator.intercalate l ++ separator ++ a := by
  induction l with
  | nil => exact absurd rfl h
  | cons x l ih =>
      cases l with
      | nil => simp [List.intercalate]
      | cons y l =>
          rw [List.cons_append, List.cons_append, List.intercalate_cons_cons,
            List.intercalate_cons_cons, ← List.cons_append,
            ih (List.cons_ne_nil y l)]
          simp

end Lists

section Sides

theorem Table.sides_of_lt
    {i k : Nat}
    (h : i < k) :
    Table.sides (k + 1) i = (if i = 0 then 0 else 1, 1) := by
  rw [Table.sides, if_neg (by omega : i + 1 ≠ k + 1)]

theorem Table.sides_last
    (k : Nat) :
    Table.sides (k + 1) k = (if k = 0 then 0 else 1, 0) := by
  rw [Table.sides, if_pos rfl]

/-- The spaces on the sides of columns stand between neighbours. -/
theorem flatMap_sides
    {n : Nat}
    (h : 0 < n) (f : Nat → List Char) :
    (List.range n).flatMap (fun i =>
      spaces (Table.sides n i).1 ++ f i ++ spaces (Table.sides n i).2) =
      [' ', ' '].intercalate ((List.range n).map f) := by
  obtain ⟨k, rfl⟩ := Nat.exists_eq_succ_of_ne_zero h.ne'
  -- what stands before the last column ends in the space on its right
  have hbefore : ∀ k : Nat,
      (List.range k).flatMap (fun i =>
        spaces (if i = 0 then 0 else 1) ++ f i ++ spaces 1) ++
        spaces (if k = 0 then 0 else 1) ++
        f k = [' ', ' '].intercalate ((List.range (k + 1)).map f) := by
    intro k
    induction k with
    | zero => simp [spaces, List.intercalate]
    | succ k ih =>
        have hne : (List.range (k + 1)).map f ≠ [] := by simp
        rw [List.range_succ (n := k + 1), List.map_append, List.map_singleton,
          intercalate_concat hne, ← ih, List.range_succ]
        simp [spaces]
  have hfirst :
      (List.range k).flatMap (fun i =>
        spaces (Table.sides (k + 1) i).1 ++ f i ++ spaces (Table.sides (k + 1) i).2) =
      (List.range k).flatMap (fun i =>
        spaces (if i = 0 then 0 else 1) ++ f i ++ spaces 1) :=
    List.flatMap_congr fun i hi => by rw [Table.sides_of_lt (List.mem_range.mp hi)]
  rw [← hbefore k, List.range_succ, List.flatMap_append, List.flatMap_singleton,
    hfirst, Table.sides_last]
  simp [spaces]

theorem sum_sides
    {n : Nat}
    (h : 0 < n) :
    ((List.range n).map fun i => (Table.sides n i).1 + (Table.sides n i).2).sum =
      2 * (n - 1) := by
  obtain ⟨k, rfl⟩ := Nat.exists_eq_succ_of_ne_zero h.ne'
  have hbefore : ∀ k : Nat,
      ((List.range k).map fun i => (if i = 0 then 0 else 1) + 1).sum +
        (if k = 0 then 0 else 1) = 2 * k := by
    intro k
    induction k with
    | zero => rfl
    | succ k ih =>
        rw [List.range_succ, List.map_append, List.sum_append, List.map_singleton,
          List.sum_singleton, if_neg k.succ_ne_zero]
        omega
  have hfirst :
      (List.range k).map (fun i =>
        (Table.sides (k + 1) i).1 + (Table.sides (k + 1) i).2) =
      (List.range k).map fun i => (if i = 0 then 0 else 1) + 1 :=
    List.map_congr_left fun i hi => by rw [Table.sides_of_lt (List.mem_range.mp hi)]
  rw [List.range_succ, List.map_append, List.sum_append, hfirst, List.map_singleton,
    List.sum_singleton, Table.sides_last,
    Nat.add_zero, hbefore k]
  omega

end Sides


/-- How a text with markup is shown, if it is. -/
def look (markup : String) : StyledText :=
  match Markup.render markup with
  | .ok t => t
  | .error _ => ⟨[], []⟩

namespace Table

/-- What is seen of the rows of a table, the header among them. -/
def seenRows (t : Table) : List (List (List Char)) :=
  (t.header :: t.rows).map fun row => (List.range t.header.length).map fun i =>
    (look (row.getD i "")).chars

/-- A table that is shown row by row: all cells are shown, each on one line, and on a
screen of the width there is room for them side by side. -/
structure Fits (t : Table) (screen : Nat) : Prop where
  has_columns : 0 < t.header.length
  shown : ∀ row ∈ t.header :: t.rows, ∀ i < t.header.length, ∃ text : StyledText,
    Markup.render (row.getD i "") = .ok text
  one_line : ∀ row ∈ t.header :: t.rows, ∀ i < t.header.length,
    (look (row.getD i "")).IsOneLine
  width_le : (columnWidths t.header.length t.seenRows).sum +
    2 * (t.header.length - 1) ≤ screen

section Fitting

variable {t : Table} {screen : Nat}

/-- A column of the table. -/
def columnAt (t : Table) (i : Nat) : Column :=
  ⟨(t.header :: t.rows).map fun row => look (row.getD i ""), (sides t.header.length i).1,
    (sides t.header.length i).2⟩

/-- The cells that the widest text of a column takes. -/
def widthAt (t : Table) (i : Nat) : Nat :=
  ((t.header :: t.rows).map fun row => cellCount (look (row.getD i "")).chars).foldl max 0

theorem cellCount_le_widthAt
    {row : List String}
    (h : row ∈ t.header :: t.rows) (i : Nat) :
    cellCount (look (row.getD i "")).chars ≤ t.widthAt i := by
  have hmem : cellCount (look (row.getD i "")).chars ∈
      (t.header :: t.rows).map fun row => cellCount (look (row.getD i "")).chars :=
    List.mem_map_of_mem h
  rw [widthAt]
  exact le_foldl_max hmem 0

theorem columnWidths_seenRows
    (t : Table) :
    columnWidths t.header.length t.seenRows =
      (List.range t.header.length).map t.widthAt := by
  refine List.map_congr_left fun i hi => ?_
  rw [widthAt, seenRows, List.map_map]
  congr 1
  refine List.map_congr_left fun row _ => ?_
  simp [List.mem_range.mp hi]

theorem Fits.columns_eq
    (h : t.Fits screen) :
    t.columns = .ok ((List.range t.header.length).map t.columnAt) := by
  refine mapM_eq_map fun i hi => ?_
  have hcells : (t.header :: t.rows).mapM (fun row => Markup.render (row.getD i "")) =
      .ok ((t.header :: t.rows).map fun row => look (row.getD i "")) := by
    refine mapM_eq_map fun row hrow => ?_
    obtain ⟨text, htext⟩ := h.shown row hrow i (List.mem_range.mp hi)
    rw [look, htext]
  simp only [hcells]
  rfl

theorem Fits.naturalWidth_eq
    (h : t.Fits screen) {i : Nat}
    (hi : i < t.header.length) :
    (t.columnAt i).naturalWidth screen =
      min screen (t.widthAt i + (t.columnAt i).left + (t.columnAt i).right) := by
  have hcells : (t.columnAt i).cells.map (fun text => Report.naturalWidth text.chars) =
      (t.header :: t.rows).map fun row => cellCount (look (row.getD i "")).chars := by
    rw [columnAt, List.map_map]
    refine List.map_congr_left fun row hrow => ?_
    rw [Function.comp_apply, Report.naturalWidth,
      Path.splitOn_of_free (h.one_line row hrow i hi).no_line_end]
    simp
  rw [Column.naturalWidth, hcells, widthAt]

theorem Fits.widths_eq
    (h : t.Fits screen) :
    widths screen ((List.range t.header.length).map t.columnAt) =
      (List.range t.header.length).map fun i =>
        t.widthAt i + (t.columnAt i).left + (t.columnAt i).right := by
  have hsum : ((List.range t.header.length).map fun i =>
      t.widthAt i + (t.columnAt i).left + (t.columnAt i).right).sum ≤
      screen := by
    have hwidth := h.width_le
    rw [columnWidths_seenRows, ← sum_sides h.has_columns, ← List.sum_map_add] at hwidth
    simpa [Nat.add_assoc, columnAt] using hwidth
  have hnatural :
      ((List.range t.header.length).map t.columnAt).map (fun c => c.naturalWidth screen) =
      (List.range t.header.length).map fun i =>
        t.widthAt i + (t.columnAt i).left + (t.columnAt i).right := by
    rw [List.map_map]
    refine List.map_congr_left fun i hi => ?_
    rw [Function.comp_apply, h.naturalWidth_eq (List.mem_range.mp hi)]
    exact Nat.min_eq_right
      ((List.single_le_sum (by simp) _ (List.mem_map_of_mem hi)).trans hsum)
  rw [widths, hnatural]
  have hexcess : totalWidth ((List.range t.header.length).map
      fun i => t.widthAt i + (t.columnAt i).left + (t.columnAt i).right) -
        screen = 0 := by
    rw [totalWidth_eq_sum]
    omega
  cases totalWidth _ with
  | zero => rfl
  | succ fuel => simp only [collapse, hexcess, if_true]

/-- What is seen of a cell. -/
theorem getD_cells_columnAt
    {k : Nat} {row : List String}
    (h : (t.header :: t.rows)[k]? = some row) (i : Nat) :
    (t.columnAt i).cells.getD k ⟨[], []⟩ = look (row.getD i "") := by
  rw [columnAt, List.getD_eq_getElem?_getD, List.getElem?_map, h]
  rfl

/-- A row of which each cell is shown on one line. -/
theorem rowLines_of_lines
    {columns : List (Column × Nat)} {k : Nat} {line : Column × Nat → List Char}
    (hne : columns ≠ [])
    (h : ∀ c ∈ columns, c.1.cellLines c.2 (c.1.cells.getD k ⟨[], []⟩) = .ok [line c]) :
    rowLines columns k = .ok [columns.flatMap line] := by
  have hcells :
      columns.mapM
      (fun c => do pure (c.2, ← c.1.cellLines c.2 (c.1.cells.getD k ⟨[], []⟩))) =
      .ok (columns.map fun c => (c.2, [line c])) := by
    refine mapM_eq_map fun c hc => ?_
    rw [h c hc]
    rfl
  have hheight :
      ((columns.map fun c => (c.2, [line c])).map fun c => c.2.length).foldl max 0 =
      1 := by
    have hones : ∀ n : Nat, (List.replicate n 1).foldl max 1 = 1 := by
      intro n
      induction n with
      | zero => rfl
      | succ n ih => exact ih
    obtain ⟨c, columns, rfl⟩ := List.exists_cons_of_ne_nil hne
    simp only [List.map_map, Function.comp_def, List.map_const', List.length_cons,
      List.replicate_succ, List.foldl_cons]
    exact hones _
  unfold rowLines
  rw [hcells]
  simp only [bind, Except.bind, hheight, List.range_one, List.map_singleton,
    List.flatMap_map, List.getD_cons_zero]
  rfl

/-- A row is shown on one line. -/
theorem Fits.rowLines_eq
    (h : t.Fits screen) {k : Nat} {row : List String}
    (hrow : (t.header :: t.rows)[k]? = some row) :
    rowLines ((List.range t.header.length).map fun i =>
        (t.columnAt i, t.widthAt i + (t.columnAt i).left + (t.columnAt i).right)) k =
      .ok [alignedRow (columnWidths t.header.length t.seenRows)
        ((List.range t.header.length).map fun i => (look (row.getD i "")).chars)] := by
  have hmem := List.mem_of_getElem? hrow
  have htext := getD_cells_columnAt hrow
  have hne : ((List.range t.header.length).map fun i =>
      (t.columnAt i, t.widthAt i + (t.columnAt i).left + (t.columnAt i).right)) ≠ [] := by
    simpa using List.ne_nil_of_length_pos h.has_columns
  have hinner : ∀ i : Nat,
      t.widthAt i + (t.columnAt i).left + (t.columnAt i).right - (t.columnAt i).left -
      (t.columnAt i).right =
      t.widthAt i := by
    intro i
    omega
  have hcells : ∀ c ∈ (List.range t.header.length).map fun i =>
        (t.columnAt i, t.widthAt i + (t.columnAt i).left + (t.columnAt i).right),
      c.1.cellLines c.2 (c.1.cells.getD k ⟨[], []⟩) = .ok [spaces c.1.left ++
        padded (c.2 - c.1.left - c.1.right) (c.1.cells.getD k ⟨[], []⟩).chars ++
          spaces c.1.right] := by
    intro c hc
    obtain ⟨i, hi, rfl⟩ := List.mem_map.mp hc
    have hline := Column.cellLines_of_fits (c := t.columnAt i)
        (h.one_line row hmem i (List.mem_range.mp hi))
      (cellCount_le_widthAt hmem i)
    rw [htext, hline, hinner]
    rfl
  rw [rowLines_of_lines hne hcells, columnWidths_seenRows, alignedRow, List.flatMap_map,
    List.zipWith_map, List.zipWith_self,
    ← flatMap_sides h.has_columns]
  congr 2
  refine List.flatMap_congr fun i _ => ?_
  rw [htext, hinner]
  rfl

/-- What is shown of a table that fits. -/
theorem render_of_fits
    (h : t.Fits screen) :
    t.render screen = .ok (alignedRows t.header.length t.seenRows) := by
  have hrows :
      (List.range (t.rows.length + 1)).mapM
      (rowLines ((List.range t.header.length).map fun i =>
        (t.columnAt i, t.widthAt i + (t.columnAt i).left + (t.columnAt i).right))) =
      .ok ((List.range (t.rows.length + 1)).map fun k =>
        [alignedRow (columnWidths t.header.length t.seenRows)
        ((List.range t.header.length).map fun i =>
          (look (((t.header :: t.rows).getD k []).getD i "")).chars)]) := by
    refine mapM_eq_map fun k hk => h.rowLines_eq ?_
    have hlt : k < (t.header :: t.rows).length := List.mem_range.mp hk
    rw [List.getD_eq_getElem _ _ hlt, List.getElem?_eq_getElem hlt]
  have hzip : ((List.range t.header.length).map t.columnAt).zip
      (widths screen ((List.range t.header.length).map t.columnAt)) =
      (List.range t.header.length).map fun i =>
        (t.columnAt i, t.widthAt i + (t.columnAt i).left + (t.columnAt i).right) := by
    rw [h.widths_eq, List.zip_map']
  unfold render
  rw [h.columns_eq]
  simp only [bind, Except.bind, hzip, hrows]
  have hlines :=
    map_range_getD (t.header :: t.rows) [] fun row =>
      [alignedRow (columnWidths t.header.length t.seenRows)
    ((List.range t.header.length).map fun i => (look (row.getD i "")).chars)]
  rw [List.length_cons] at hlines
  rw [hlines, alignedRows]
  conv_rhs => rw [seenRows, List.map_map]
  rw [← List.flatMap_def, ← List.map_eq_flatMap]
  rfl

end Fitting

end Table
end Report
end HdlLint
