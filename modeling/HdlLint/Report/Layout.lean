import HdlLint.Path.Components
import HdlLint.Report.StyledText
import HdlLint.Text.Blank

/-!
# Layout

A text is laid out on lines of a width in cells: tabs are filled up, and a line that is
too long is broken before a word. What is done with a word that is longer than a whole
line is said by `Overflow`.

`StyledText.wrap` gives the lines, and `fitLine` the characters of a line that is shown in
a number of cells.
-/

namespace HdlLint.Report

/-- What happens to that which is too long for a line. -/
inductive Overflow where
  /-- It goes on on the next line. -/
  | fold
  /-- It is cut, with an ellipsis at the end; shorter lines are filled up. -/
  | ellipsis
  deriving Repr, DecidableEq

/-- The cells between two tab stops. -/
def tabStop : Nat := 8

/-- Characters at which a text ends one line and begins another, for the measure of its
width. -/
def endsLine (c : Char) : Bool :=
  c = '\n' || c = '\r' || c = '\x0B' || c = '\x0C' ||
    (0x1C ≤ c.toNat && c.toNat ≤ 0x1E) || c.toNat = 0x85 || c.toNat = 0x2028 ||
    c.toNat = 0x2029

/-- The width that a text asks for: that of its widest line. -/
def naturalWidth (s : List Char) : Nat :=
  ((Path.splitOn endsLine s).map cellCount).foldl max 0

/-- The words of a line with the blanks behind each; blanks before the first word belong
to it. Nothing is lost unless there is no word. The first argument holds what has been
read of the current word, in reverse, and whether blanks have begun behind it. -/
def wordsWithBlanks (read : List Char) (blanksBegun : Bool) : List Char → List (List Char)
  | [] => [read.reverse]
  | c :: r =>
    if Text.isBlank c then
      wordsWithBlanks (c :: read) (read.any fun d => !Text.isBlank d) r
    else if blanksBegun then read.reverse :: wordsWithBlanks [c] false r
    else wordsWithBlanks (c :: read) false r

/-- The positions at which pieces begin that follow one another, the beginning of the line
left out. -/
def pieceStarts (start : Nat) : List (List Char) → List Nat
  | [] => []
  | p :: ps => (if start = 0 then [] else [start]) ++ pieceStarts (start + p.length) ps

/-- The positions at which a line is broken. Given are the position of the next word and
the cells taken on the line begun. -/
def breaks (width : Nat) (overflow : Overflow) (start taken : Nat) :
    List (List Char) → List Nat
  | [] => []
  | w :: ws =>
    let need := cellCount (Text.dropEndWhile Text.isBlank w)
    let next := start + w.length
    if taken + need ≤ width then breaks width overflow next (taken + cellCount w) ws
    else if width < need then
      match overflow with
      | .fold =>
        let pieces := chopCells width w
        pieceStarts start pieces ++
          breaks width overflow next (cellCount (pieces.getLastD [])) ws
      | .ellipsis => pieceStarts start [w] ++ breaks width overflow next (cellCount w) ws
    else if taken = 0 then breaks width overflow next taken ws
    else pieceStarts start [w] ++ breaks width overflow next (cellCount w) ws

namespace StyledText

/-- A part that ends in a tab, with spaces in place of it up to the next tab stop. The
first argument is the cell where the part begins; the cell where it ends is given too. -/
def fillTab (cell : Nat) (t : StyledText) : Nat × StyledText :=
  let chars := t.chars.dropLast ++ [' ']
  let cell := cell + cellCount chars
  let missing := (tabStop - cell % tabStop) % tabStop
  let extend := fun (s : Span) =>
    if missing ≠ 0 && chars.length ≤ s.stop then { s with stop := s.stop + missing } else s
  (cell + missing, ⟨chars ++ spaces missing, t.spans.map extend⟩)

/-- Parts with their tabs filled up. All but the last one end in a tab. -/
def fillTabs (cell : Nat) : List StyledText → List StyledText
  | [] => []
  | [t] => if t.chars.isEmpty then [] else [t]
  | t :: ts =>
    let (cell, filled) := fillTab cell t
    filled :: fillTabs cell ts

/-- A line with its tabs filled up. -/
def expandTabs (t : StyledText) : StyledText :=
  match positionsOf '\t' 0 t.chars with
  | [] => t
  | tabs => joined (fillTabs 0 (t.divide (tabs.map (· + 1))))

/-- A line without the blanks at its end that stand out over a width. -/
def withoutOverhang (width : Nat) (t : StyledText) : StyledText :=
  let blanks := t.chars.length - (Text.dropEndWhile Text.isBlank t.chars).length
  let surplus := min blanks (t.chars.length - width)
  if surplus = 0 then t else t.takeFirst (t.chars.length - surplus)

/-- A line that is too long cut to a width. -/
def fit (width : Nat) (overflow : Overflow) (t : StyledText) : StyledText :=
  let taken := cellCount t.chars
  match overflow with
  | .fold => if taken ≤ width then t else t.withChars (fitCells width t.chars)
  | .ellipsis =>
    if taken ≤ width then ⟨t.chars ++ spaces (width - taken), t.spans⟩
    else t.withChars (fitCells (width - 1) t.chars ++ ['…'])

/-- The lines of a text that is laid out in a width. -/
def wrap (width : Nat) (overflow : Overflow) (t : StyledText) : List StyledText :=
  t.lines.flatMap fun line =>
    let line := line.expandTabs
    (line.divide (breaks width overflow 0 0 (wordsWithBlanks [] false line.chars))).map
      fun l => (l.withoutOverhang width).fit width overflow

end StyledText

/-- Segments that take too many cells, cut. The segment in which the line ends is cut or
filled up. -/
def cropSegments (width : Nat) : List (List Char) → List (List Char)
  | [] => []
  | s :: r =>
    if cellCount s < width then s :: cropSegments (width - cellCount s) r
    else [fitCells width s]

/-- The cells that segments take one by one. -/
def cellsOfSegments (segments : List (List Char)) : Nat :=
  segments.foldl (fun n s => n + cellCount s) 0

/-- The segments of a line cut to a width, and filled up with spaces where that is asked
for. -/
def fitLine (width : Nat) (filled : Bool) (segments : List (List Char)) :
    List (List Char) :=
  let taken := cellsOfSegments segments
  if taken < width then
    (if filled then segments ++ [spaces (width - taken)] else segments)
  else if width < taken then cropSegments width segments
  else segments

end HdlLint.Report
