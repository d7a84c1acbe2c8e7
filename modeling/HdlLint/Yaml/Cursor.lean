import HdlLint.Fault.Crash

/-!
# Positions in a document

A cursor is a position in the text of a document: the characters ahead, how many lie
behind, and the line and column reached. Past the end every character ahead reads as NUL,
which no document contains.
-/

namespace HdlLint.Yaml

/-- Why a text is no document, or has no value. -/
inductive DocumentFault where
  /-- The text is not well formed, or a node cannot have the tag it has. -/
  | malformed
  /-- A value is out of its range or cannot be read as what its tag says. -/
  | crash (c : Crash)
  deriving Repr, DecidableEq

/-- A position in a text. -/
structure Cursor where
  rest : List Char
  index : Nat
  line : Nat
  column : Nat
  deriving Repr

def nul : Char := '\x00'

/-- A character that ends a line. -/
def isBreak (c : Char) : Bool :=
  c = '\n' || c = '\r' || c.toNat = 0x85 || c.toNat = 0x2028 || c.toNat = 0x2029

/-- The end of a line or of the text. -/
def isLineEnd (c : Char) : Bool :=
  c = nul || isBreak c

/-- A space, or the end of a line or of the text. -/
def isSpaceOrEnd (c : Char) : Bool :=
  c = ' ' || isLineEnd c

/-- A space or tab, or the end of a line or of the text. -/
def isGap (c : Char) : Bool :=
  c = '\t' || isSpaceOrEnd c

/-- The mark that may stand at the beginning of a text. -/
def byteOrderMark : Char := '\uFEFF'

namespace Cursor

def start (s : List Char) : Cursor := ⟨s, 0, 0, 0⟩

def peek (c : Cursor) (n : Nat := 0) : Char :=
  c.rest.getD n nul

/-- The position behind the next character. -/
def next (c : Cursor) : Cursor :=
  match c.rest with
  | [] => c
  | x :: r =>
    if (isBreak x && x ≠ '\r') || (x = '\r' && r.head? ≠ some '\n') then
      ⟨r, c.index + 1, c.line + 1, 0⟩
    else ⟨r, c.index + 1, c.line, if x = byteOrderMark then c.column else c.column + 1⟩

/-- The position behind the next `n` characters. -/
def skip (c : Cursor) : Nat → Cursor
  | 0 => c
  | n + 1 => c.next.skip n

/-- The longest run of characters of a class, and the position behind it. -/
def takeWhile (c : Cursor) (p : Char → Bool) : List Char × Cursor :=
  let run := c.rest.takeWhile p
  (run, c.skip run.length)

/-- The position behind a run of characters of a class. -/
def skipWhile (c : Cursor) (p : Char → Bool) : Cursor :=
  (c.takeWhile p).2

/-- The position behind the spaces ahead. -/
def skipSpaces (c : Cursor) : Cursor :=
  c.skipWhile (· = ' ')

/-- The rest of the line ahead, without its end. -/
def takeLine (c : Cursor) : List Char × Cursor :=
  c.takeWhile fun x => !isLineEnd x

/-- Reads a line end, if one is ahead. Most read as a line feed, the two separators as
themselves. -/
def takeBreak (c : Cursor) : List Char × Cursor :=
  let x := c.peek
  if x = '\r' && c.peek 1 = '\n' then (['\n'], c.skip 2)
  else if x.toNat = 0x2028 || x.toNat = 0x2029 then ([x], c.next)
  else if isBreak x then (['\n'], c.next)
  else ([], c)

/-- Whether three equal marks stand ahead, with a gap behind them. -/
def atMark (c : Cursor) (mark : Char) : Bool :=
  c.peek = mark && c.peek 1 = mark && c.peek 2 = mark && isGap (c.peek 3)

/-- Whether a mark that separates documents is ahead. -/
def atSeparator (c : Cursor) : Bool :=
  c.atMark '-' || c.atMark '.'

end Cursor

end HdlLint.Yaml
