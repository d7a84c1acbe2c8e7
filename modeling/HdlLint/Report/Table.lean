import HdlLint.Report.Layout
import HdlLint.Report.Markup

/-!
# Tables

A table has a header and rows of cells, all of which may hold markup. A column is as wide
as its widest cell, and columns are set apart by two spaces, one of which belongs to each
of the two. Where the screen is too narrow, the widest columns give way. A cell that needs
several lines makes its row as high.

`Table.render` gives the lines of a table, and `printed` those of a text that stands
alone.
-/

namespace HdlLint.Report

/-- The cells of a line on the output stream and on the error stream. -/
structure Screen where
  output : Nat
  errors : Nat
  deriving Repr, DecidableEq

/-- A quotient rounded to the nearest number; a half goes to the even neighbour. -/
def roundedQuotient (n k : Nat) : Nat :=
  let q := n / k
  if 2 * (n % k) < k || (2 * (n % k) = k && q % 2 = 0) then q else q + 1

/-- Takes cells from some of the widths in turn, in equal parts. Given are the cells to be
taken, how many widths still give some, and the most that one gives. -/
def reduceEqually (total givers most : Nat) (gives : Nat → Bool) : List Nat → List Nat
  | [] => []
  | w :: ws =>
    if gives w && 0 < givers then
      let taken := min most (roundedQuotient total givers)
      (w - taken) :: reduceEqually (total - taken) (givers - 1) most gives ws
    else w :: reduceEqually total givers most gives ws

/-- The cells that widths take together. -/
def totalWidth (widths : List Nat) : Nat :=
  widths.foldl (· + ·) 0

/-- Widths that fit into a line: as long as they do not, the widest ones are reduced, at
most to the next smaller one. The first argument bounds the number of reductions. -/
def collapse (available : Nat) : Nat → List Nat → List Nat
  | 0, widths => widths
  | fuel + 1, widths =>
    let excess := totalWidth widths - available
    if excess = 0 then widths
    else
      let widest := widths.foldl max 0
      let next := (widths.filter (· ≠ widest)).foldl max 0
      let most := min excess (widest - next)
      let givers := (widths.filter (· = widest)).length
      collapse available fuel (reduceEqually excess givers most (· = widest) widths)

/-- A header and rows with as many cells. -/
structure Table where
  header : List String
  rows : List (List String)
  deriving Repr, DecidableEq

/-- What stands in a column, from the header down, and the spaces on both sides. -/
structure Column where
  cells : List StyledText
  left : Nat
  right : Nat
  deriving Repr, DecidableEq

namespace Column

/-- The cells that a column asks for on a screen of a width. -/
def naturalWidth (c : Column) (screen : Nat) : Nat :=
  min screen (((c.cells.map fun t => Report.naturalWidth t.chars).foldl max 0) +
    c.left + c.right)

/-- The lines of a cell in a column of a width. -/
def cellLines (c : Column) (width : Nat) (t : StyledText) :
    Except Crash (List (List Char)) := do
  let inner := width - c.left - c.right
  let lines := t.wrap inner .ellipsis
  Markup.checkStyles lines
  let sides := fun (n : Nat) => if n = 0 then [] else [spaces n]
  pure (lines.map fun l =>
    (fitLine width true
      (sides c.left ++ fitLine inner true l.segments ++ sides c.right)).flatten)

end Column

namespace Table

/-- The spaces on the two sides of a column: none at the sides of the table. -/
def sides (columns i : Nat) : Nat × Nat :=
  (if i = 0 then 0 else 1, if i + 1 = columns then 0 else 1)

def columns (t : Table) : Except Crash (List Column) :=
  (List.range t.header.length).mapM fun i => do
    let (left, right) := sides t.header.length i
    let cells ← (t.header :: t.rows).mapM fun row => Markup.render (row.getD i "")
    pure ⟨cells, left, right⟩

/-- The widths of columns on a screen of a width. -/
def widths (screen : Nat) (columns : List Column) : List Nat :=
  let natural := columns.map fun c => c.naturalWidth screen
  collapse screen (totalWidth natural) natural

/-- The lines of a row, filled up to the height of its highest cell. -/
def rowLines (columns : List (Column × Nat)) (row : Nat) :
    Except Crash (List (List Char)) := do
  let cells ← columns.mapM fun (c, width) => do
    pure (width, ← c.cellLines width (c.cells.getD row ⟨[], []⟩))
  let height := (cells.map fun c => c.2.length).foldl max 0
  pure ((List.range height).map fun i => cells.flatMap fun (width, lines) =>
    lines.getD i (spaces width))

/-- The lines of a table on a screen of a width. -/
def render (t : Table) (screen : Nat) : Except Crash (List (List Char)) := do
  let columns ← t.columns
  let columns := columns.zip (widths screen columns)
  pure (← (List.range (t.rows.length + 1)).mapM (rowLines columns)).flatten

end Table

/-- The lines of a text with markup that stands alone, on a screen of a width. -/
def printed (screen : Nat) (s : String) : Except Crash (List (List Char)) := do
  let lines := (← Markup.render s).wrap screen .fold
  Markup.checkStyles lines
  pure (lines.map fun l => (fitLine screen false l.segments).flatten)

end HdlLint.Report
