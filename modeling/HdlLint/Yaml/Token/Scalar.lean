import HdlLint.Yaml.Token.Word

/-!
# Texts of scalars

A scalar is written plainly, between quotes, or as a block of lines. Each way has its own
rules for what line ends inside it mean.
-/

namespace HdlLint.Yaml

/-- Reads line ends with blanks before them inside a quoted scalar. No separator of
documents may stand at the beginning of a line. -/
def readQuotedBreaks : Nat → List Char → Cursor →
    Except DocumentFault (List Char × Cursor)
  | 0, breaks, c => .ok (breaks, c)
  | fuel + 1, breaks, c =>
    if c.atSeparator then .error .malformed
    else
      let c := c.skipWhile fun x => x = ' ' || x = '\t'
      if isBreak c.peek then
        let (b, c) := c.takeBreak
        readQuotedBreaks fuel (breaks ++ b) c
      else .ok (breaks, c)

/-- What the blanks and line ends at a place in a scalar stand for: one line feed reads as
a space, unless more line ends follow, which then stand for themselves. -/
def foldBreaks (first breaks : List Char) : List Char :=
  (if first ≠ ['\n'] then first else if breaks.isEmpty then [' '] else []) ++ breaks

/-- Reads blanks and line ends inside a quoted scalar. -/
def readQuotedGap (c : Cursor) : Except DocumentFault (List Char × Cursor) :=
  let (blanks, c) := c.takeWhile fun x => x = ' ' || x = '\t'
  if c.peek = nul then .error .malformed
  else if isBreak c.peek then
    let (first, c) := c.takeBreak
    (readQuotedBreaks (c.rest.length + 1) [] c).map fun (breaks, c) =>
      (foldBreaks first breaks, c)
  else .ok (blanks, c)

/-- The characters that letters and marks behind a backslash stand for. -/
def escapedChar? : Char → Option Char
  | '0' => some '\x00'
  | 'a' => some '\x07'
  | 'b' => some '\x08'
  | 't' => some '\t'
  | '\t' => some '\t'
  | 'n' => some '\n'
  | 'v' => some '\x0B'
  | 'f' => some '\x0C'
  | 'r' => some '\r'
  | 'e' => some '\x1B'
  | ' ' => some ' '
  | '\x22' => some '\x22'
  | '\\' => some '\\'
  | '/' => some '/'
  | 'N' => some '\u0085'
  | '_' => some '\u00A0'
  | 'L' => some '\u2028'
  | 'P' => some '\u2029'
  | _ => none

/-- How many hexadecimal digits follow a letter that announces a code point. -/
def codeLength? : Char → Option Nat
  | 'x' => some 2
  | 'u' => some 4
  | 'U' => some 8
  | _ => none

/-- The character of a code point. Above the last code point there is none. -/
def charOfCode (n : Nat) : Except DocumentFault Char :=
  if 0x7FFFFFFF < n then
    .error (.crash (.of .overflow "signed integer is greater than maximum"))
  else if 0x10FFFF < n then
    .error (.crash (.of .value "chr() arg not in range(0x110000)"))
  else if n.isValidChar then .ok (Char.ofNat n)
  else .ok '\uFFFD'

/-- Reads a code point: a letter that tells how many hexadecimal digits follow, and the
digits. -/
def readCode? (c : Cursor) : Option (Nat × Cursor) := do
  let n ← codeLength? c.peek
  let values := ((c.rest.drop 1).take n).filterMap hexValue?
  if values.length = n then pure (Text.ofDigits 16 values, c.skip (n + 1)) else none

/-- Whether a code stands for the first half of a character that is written as a pair. -/
def isHighHalf (n : Nat) : Bool :=
  0xD800 ≤ n && n ≤ 0xDBFF

/-- Whether a code stands for the second half of a character that is written as a pair. -/
def isLowHalf (n : Nat) : Bool :=
  0xDC00 ≤ n && n ≤ 0xDFFF

/-- Reads an escape for the second half of a pair. -/
def readLowHalf? (c : Cursor) : Option (Nat × Cursor) :=
  if c.peek = '\\' then (readCode? c.next).filter fun h => isLowHalf h.1 else none

/-- Reads what follows a backslash in a scalar between double quotes. Two halves of a pair
are one character. -/
def readEscape (c : Cursor) : Except DocumentFault (List Char × Cursor) := do
  match escapedChar? c.peek, readCode? c with
  | some y, _ => pure ([y], c.next)
  | none, some (n, next) =>
    match (readLowHalf? next).filter fun _ => isHighHalf n with
    | some (m, next) =>
        pure ([Char.ofNat (0x10000 + (n - 0xD800) * 0x400 + (m - 0xDC00))], next)
    | none => pure ([← charOfCode n], next)
  | none, none =>
    if isBreak c.peek then readQuotedBreaks (c.rest.length + 1) [] c.takeBreak.2
    else throw .malformed

/-- Reads characters inside a quoted scalar up to a blank, a line end or the closing
quote. -/
def readQuotedRun (double : Bool) : Nat → List Char → Cursor →
    Except DocumentFault (List Char × Cursor)
  | 0, read, c => .ok (read, c)
  | fuel + 1, read, c => do
    let (run, c) :=
      c.takeWhile fun x => !(x = '\x27' || x = '\x22' || x = '\\' || isGap x)
    let read := read ++ run
    let x := c.peek
    if !double && x = '\x27' && c.peek 1 = '\x27' then
      readQuotedRun double fuel (read ++ [x]) (c.skip 2)
    else if (double && x = '\x27') || (!double && (x = '\x22' || x = '\\')) then
      readQuotedRun double fuel (read ++ [x]) c.next
    else if double && x = '\\' then
      let (s, c) ← readEscape c.next
      readQuotedRun double fuel (read ++ s) c
    else pure (read, c)

/-- Reads runs and gaps up to the closing quote. -/
def readQuotedRest (double : Bool) (quote : Char) : Nat → List Char → Cursor →
    Except DocumentFault (List Char × Cursor)
  | 0, _, _ => .error .malformed
  | fuel + 1, read, c => do
    if c.peek = quote then pure (read, c.next)
    else
      let (gap, c) ← readQuotedGap c
      let (run, c) ← readQuotedRun double (c.rest.length + 1) [] c
      readQuotedRest double quote fuel (read ++ gap ++ run) c

def readQuoted (c : Cursor) : Except DocumentFault (Token × Cursor) := do
  let quote := c.peek
  let double := quote = '\x22'
  let (run, c) ← readQuotedRun double (c.rest.length + 1) [] c.next
  let (s, c) ← readQuotedRest double quote (c.rest.length + 1) run c
  pure (.scalar (String.ofList s) false, c)

/-- The characters that have a meaning of their own inside brackets and braces. -/
def isFlowMark (c : Char) : Bool :=
  c = ',' || c = '[' || c = ']' || c = '\x7b' || c = '\x7d'

/-- The characters of a plain scalar up to a gap, to a colon that ends a key, or to a mark
of the brackets around it. -/
def plainRun (flow : Bool) : List Char → List Char
  | [] => []
  | ':' :: r =>
    let follower := r.headD nul
    if isGap follower || (flow && isFlowMark follower) then [] else ':' :: plainRun flow r
  | c :: r =>
    if isGap c || (flow && (isFlowMark c || c = '?')) then [] else c :: plainRun flow r

/-- Reads the line ends and spaces behind the first line end inside a plain scalar. At a
separator of documents the scalar ends and nothing is read. -/
def readPlainBreaks : Nat → List Char → Cursor → Option (List Char) × Cursor
  | 0, breaks, c => (some breaks, c)
  | fuel + 1, breaks, c =>
    if c.peek = ' ' then readPlainBreaks fuel breaks c.next
    else if isBreak c.peek then
      let (b, c) := c.takeBreak
      if c.atSeparator then (none, c) else readPlainBreaks fuel (breaks ++ b) c
    else (some breaks, c)

/-- The spaces and line ends inside a plain scalar: what they stand for, the place behind
them, and whether a line end was among them. -/
def readPlainGap (c : Cursor) : List Char × Cursor × Bool :=
  let (spaces, c) := c.takeWhile (· = ' ')
  if isBreak c.peek then
    let (first, c) := c.takeBreak
    if c.atSeparator then ([], c, true)
    else match readPlainBreaks (c.rest.length + 1) [] c with
      | (some breaks, c) => (foldBreaks first breaks, c, true)
      | (none, c) => ([], c, true)
  else (spaces, c, false)

/-- Reads runs and gaps of a plain scalar whose lines have to reach a column. The gap
before the next run is given, and whether the last gap held a line end. -/
def readPlainRest (flow : Bool) (indent : Int) :
    Nat → List Char → List Char → Bool → Cursor → List Char × Cursor × Bool
  | 0, read, _, broken, c => (read, c, broken)
  | fuel + 1, read, gap, broken, c =>
    if c.peek = '#' then (read, c, broken)
    else
      let run := plainRun flow c.rest
      if run.isEmpty then (read, c, broken)
      else
        let read := read ++ gap ++ run
        let (gap, c, broken) := readPlainGap (c.skip run.length)
        if gap.isEmpty || c.peek = '#' || (!flow && (c.column : Int) < indent) then
          (read, c, broken)
        else readPlainRest flow indent fuel read gap broken c

/-- Reads a plain scalar inside a block of an indentation. It is told whether a line end
was read behind it. -/
def readPlain (flow : Bool) (indent : Int) (c : Cursor) : Token × Cursor × Bool :=
  let (s, c, broken) := readPlainRest flow (indent + 1) (c.rest.length + 1) [] [] false c
  (.scalar (String.ofList s) true, c, broken)

/-- What becomes of the line ends behind a block of lines. -/
inductive Chomping where
  | clip
  | strip
  | keep
  deriving Repr, DecidableEq

/-- The chomping that a mark asks for. -/
def chomping? : Char → Option Chomping
  | '+' => some .keep
  | '-' => some .strip
  | _ => none

/-- Reads a mark that asks for a chomping, if one is ahead. -/
def takeChomping (c : Cursor) : Option Chomping × Cursor :=
  match chomping? c.peek with
  | some m => (some m, c.next)
  | none => (none, c)

/-- Reads a digit that gives an indentation, if one is ahead. Zero is none. -/
def takeIncrement (c : Cursor) : Except DocumentFault (Option Nat × Cursor) :=
  if c.peek = '0' then .error .malformed
  else if Text.isAsciiDigit c.peek then .ok (some (c.peek.toNat - 0x30), c.next)
  else .ok (none, c)

/-- Reads the marks behind the one that announces a block of lines, in either order. -/
def readBlockHeader (c : Cursor) :
    Except DocumentFault (Chomping × Option Nat × Cursor) := do
  let (before, c) := takeChomping c
  let (increment, c) ← takeIncrement c
  let (after, c) :=
    if before.isNone && increment.isSome then takeChomping c else (none, c)
  if isSpaceOrEnd c.peek then pure ((before.or after).getD .clip, increment, c)
  else throw .malformed

/-- Reads empty lines and spaces at the beginning of a block: the line ends and the
greatest column reached. -/
def readBlockStart : Nat → List Char → Nat → Cursor → List Char × Nat × Cursor
  | 0, breaks, widest, c => (breaks, widest, c)
  | fuel + 1, breaks, widest, c =>
    if c.peek = ' ' then
      let c := c.next
      readBlockStart fuel breaks (max widest c.column) c
    else if isBreak c.peek then
      let (b, c) := c.takeBreak
      readBlockStart fuel (breaks ++ b) widest c
    else (breaks, widest, c)

/-- The place behind spaces ahead, up to a column. -/
def skipIndent (indent : Nat) : Nat → Cursor → Cursor
  | 0, c => c
  | fuel + 1, c =>
    if c.column < indent && c.peek = ' ' then skipIndent indent fuel c.next else c

/-- Reads empty lines inside a block. -/
def readBlockBreaks (indent : Nat) : Nat → List Char → Cursor → List Char × Cursor
  | 0, breaks, c => (breaks, c)
  | fuel + 1, breaks, c =>
    let c := skipIndent indent indent c
    if isBreak c.peek then
      let (b, c) := c.takeBreak
      readBlockBreaks indent fuel (breaks ++ b) c
    else (breaks, c)

/-- The lines of a block read so far, the last line end, and the empty lines behind it. -/
structure BlockText where
  read : List Char
  lineBreak : List Char
  breaks : List Char
  place : Cursor

/-- Reads the lines of a block. In a folded block a line feed between lines that do not
begin with a blank reads as a space. -/
def readBlockLines (folded : Bool) (indent : Nat) : Nat → BlockText → BlockText
  | 0, b => b
  | fuel + 1, b =>
    let c := b.place
    if c.column = indent && c.peek ≠ nul then
      let indented := c.peek = ' ' || c.peek = '\t'
      let (line, c) := c.takeLine
      let (lineBreak, c) := c.takeBreak
      let (breaks, d) := readBlockBreaks indent (c.rest.length + 1) [] c
      let read := b.read ++ b.breaks ++ line
      if d.column = indent && d.peek ≠ nul then
        let joint :=
          if folded && lineBreak = ['\n'] && !indented && d.peek ≠ ' ' &&
              d.peek ≠ '\t' then
            (if breaks.isEmpty then [' '] else [])
          else lineBreak
        readBlockLines folded indent fuel ⟨read ++ joint, lineBreak, breaks, d⟩
      else ⟨read, lineBreak, breaks, d⟩
    else b

/-- Reads a block of lines inside a block of an indentation. -/
def readBlock (indent : Int) (c : Cursor) : Except DocumentFault (Token × Cursor) := do
  let folded := c.peek = '>'
  let (chomping, increment, c) ← readBlockHeader c.next
  let c ← skipRestOfLine c
  let least := max (indent + 1) 1
  let (breaks, column, c) :=
    match increment with
    | none =>
      let (breaks, widest, c) := readBlockStart (c.rest.length + 1) [] 0 c
      (breaks, max least.toNat widest, c)
    | some n =>
      let column := least.toNat + n - 1
      let (breaks, c) := readBlockBreaks column (c.rest.length + 1) [] c
      (breaks, column, c)
  let b := readBlockLines folded column (c.rest.length + 1) ⟨[], [], breaks, c⟩
  let ending := match chomping with
    | .strip => []
    | .clip => b.lineBreak
    | .keep => b.lineBreak ++ b.breaks
  pure (.scalar (String.ofList (b.read ++ ending)) false, b.place)

end HdlLint.Yaml
