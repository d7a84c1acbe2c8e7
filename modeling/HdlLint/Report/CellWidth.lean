import HdlLint.Report.CellWidth.Table
import HdlLint.Text.Range

/-!
# Cell widths

On a screen of cells of one size, most characters take one cell. Marks that combine with
the character before them take none; the characters of East Asian scripts and most emoji
take two. Two signs change what stands beside them: a joiner merges the next character
into the one before, and a selector asks for the wide form of a narrow emoji.

`cellCount` is the number of cells that a text takes. `graphemes` cuts it into the parts
that are shown as one, which are never torn apart: `fitCells` cuts or fills a text up to a
number of cells, and `chopCells` cuts it into pieces. `graphemes_text` states that no
character is lost.
-/

namespace HdlLint.Report

/-- The sign that merges the next character into the one before it. -/
def joiner : Char := '\u200D'

/-- The sign that asks for the wide form of an emoji. -/
def wideSelector : Char := '\uFE0F'

/-- The number of cells a character takes by itself. -/
def cellWidth (c : Char) : Nat :=
  if 0x20 ≤ c.toNat && c.toNat ≤ 0x7E then 1
  else if Text.inRanges zeroWidthRanges c then 0
  else if Text.inRanges doubleWidthRanges c then 2
  else 1

/-- The cells by which the selector widens the last character that takes cells. -/
def widening (last : Option Char) : Nat :=
  if last.any (Text.inRanges narrowEmojiRanges) then 1 else 0

/-- The number of cells a text takes. Given are the last character before it that takes
cells, and whether a joiner stands before it. -/
def cellsAfter (last : Option Char) (joined : Bool) : List Char → Nat
  | [] => 0
  | c :: r =>
    if joined then cellsAfter last false r
    else if c = joiner then cellsAfter last true r
    else if c = wideSelector then widening last + cellsAfter none false r
    else if cellWidth c = 0 then cellsAfter last false r
    else cellWidth c + cellsAfter (some c) false r

/-- The number of cells a text takes. -/
def cellCount (s : List Char) : Nat :=
  cellsAfter none false s

/-- Characters that are shown as one, and the cells they take together. -/
structure Grapheme where
  text : List Char
  cells : Nat
  deriving Repr, DecidableEq

/-- A part with one more character, which may widen it. -/
def Grapheme.extend (g : Grapheme) (c : Char) (cells : Nat) : Grapheme :=
  ⟨g.text ++ [c], g.cells + cells⟩

/-- The parts of a text. Given are the last character before it that takes cells, whether
a joiner stands before it, and the part begun before it. -/
def graphemesAfter (last : Option Char) (joined : Bool) (begun : Option Grapheme) :
    List Char → List Grapheme
  | [] => begun.toList
  | c :: r =>
    match begun with
    | none =>
      graphemesAfter (if cellWidth c = 0 then last else some c) false
        (some ⟨[c], cellWidth c⟩) r
    | some g =>
      if joined then graphemesAfter last false (some (g.extend c 0)) r
      else if c = joiner then graphemesAfter last true (some (g.extend c 0)) r
      else if c = wideSelector then
        graphemesAfter (if widening last = 0 then last else none) false
          (some (g.extend c (widening last))) r
      else if cellWidth c = 0 then graphemesAfter last false (some (g.extend c 0)) r
      else g :: graphemesAfter (some c) false (some ⟨[c], cellWidth c⟩) r

/-- The parts of a text that are shown as one. A mark that stands before everything else
is a part of its own. -/
def graphemes (s : List Char) : List Grapheme :=
  graphemesAfter none false none s

/-- The parts hold the characters of the part begun before and those of the text. -/
theorem graphemesAfter_text (last : Option Char) (joined : Bool)
    (begun : Option Grapheme) (s : List Char) :
    (graphemesAfter last joined begun s).flatMap Grapheme.text =
      (begun.toList.flatMap Grapheme.text) ++ s := by
  induction s generalizing last joined begun with
  | nil => simp [graphemesAfter]
  | cons c r ih =>
    unfold graphemesAfter
    cases begun with
    | none => simp [ih]
    | some g =>
      simp only [Grapheme.extend]
      split
      · simp [ih]
      split
      · simp [ih]
      split
      · simp [ih]
      split <;> simp [ih]

/-- The parts of a text hold its characters in their order. -/
theorem graphemes_text (s : List Char) : (graphemes s).flatMap Grapheme.text = s := by
  simp [graphemes, graphemesAfter_text]

/-- The beginning of a text that takes a number of cells. Where a part would be torn
apart, a space stands for what is left of it. -/
def takeCells : Nat → List Grapheme → List Char
  | 0, _ => []
  | _, [] => []
  | n + 1, g :: r =>
    if g.cells ≤ n + 1 then g.text ++ takeCells (n + 1 - g.cells) r else [' ']

def spaces (n : Nat) : List Char :=
  List.replicate n ' '

/-- A text cut or filled up to a number of cells. -/
def fitCells (total : Nat) (s : List Char) : List Char :=
  if total = 0 then []
  else if cellCount s ≤ total then s ++ spaces (total - cellCount s)
  else takeCells total (graphemes s)

/-- The characters of parts that are given from the last one to the first. -/
def textOfReversed (parts : List Grapheme) : List Char :=
  parts.reverse.flatMap Grapheme.text

/-- Puts parts on lines of a width. Given are the parts on the line begun, the last one
first, and the cells they take. -/
def chopParts (width : Nat) (line : List Grapheme) (taken : Nat) :
    List Grapheme → List (List Char)
  | [] => if taken = 0 then [] else [textOfReversed line]
  | g :: r =>
    if width < taken + g.cells then textOfReversed line :: chopParts width [g] g.cells r
    else chopParts width (g :: line) (taken + g.cells) r

/-- A text cut into pieces that take at most a number of cells. -/
def chopCells (width : Nat) (s : List Char) : List (List Char) :=
  chopParts width [] 0 (graphemes s)

end HdlLint.Report
