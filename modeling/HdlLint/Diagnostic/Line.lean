import HdlLint.Text.Blank
import HdlLint.Text.Digit

/-!
# Diagnostic lines

The linter reports an issue on a line of the form

    %<Word>[-<CODE>]: <path>:<line>:[<column>:] <message>

whose path ends in a dot and letters. `parseLine` finds the leftmost `%` at which such a
line begins. From there every field but two is determined by the characters before it: the
path is the longest one after which the rest fits, and the column is present whenever a
number and a colon stand there and something follows them. Fields are kept as written.
-/

namespace HdlLint

/-- The fields of a diagnostic line. -/
structure LineFields where
  keyword : String
  code : Option String
  path : String
  lineText : String
  columnText : Option String
  message : String
  deriving Repr, DecidableEq

/-- A line of output, as read. -/
inductive ParsedLine where
  | matched (fields : LineFields)
  | unmatched (text : String)
  deriving Repr, DecidableEq

namespace DiagnosticLine

/-- The characters of the first word. -/
def isWordChar (c : Char) : Bool :=
  Text.isAsciiLetter c || Text.isAsciiDigit c || c = '_'

def isCodeChar (c : Char) : Bool :=
  (0x41 ≤ c.toNat && c.toNat ≤ 0x5A) || Text.isAsciiDigit c || c = '_'

/-- The longest part at the beginning with characters of a class, which must not be empty,
and the rest. -/
def takeRun? (p : Char → Bool) (s : List Char) : Option (List Char × List Char) :=
  match s.takeWhile p with
  | [] => none
  | run => some (run, s.dropWhile p)

def afterColon? : List Char → Option (List Char)
  | ':' :: r => some r
  | _ => none

/-- The code, if a dash begins it, and what follows. -/
def takeCode? : List Char → Option (Option (List Char) × List Char)
  | '-' :: r => (takeRun? isCodeChar r).map fun (code, rest) => (some code, rest)
  | r => some (none, r)

/-- A message: the text up to the next line feed after blanks. Where only blanks are left,
the last of them that is no line feed is the message. -/
def message? (s : List Char) : Option (List Char) :=
  match s.dropWhile Text.isAsciiBlank with
  | [] => (s.reverse.find? (· ≠ '\n')).map fun c => [c]
  | r => some (r.takeWhile (· ≠ '\n'))

/-- The column with its colon after optional blanks, and what follows. -/
def column? (s : List Char) : Option (List Char × List Char) := do
  let (digits, r) ← takeRun? Text.isAsciiDigit (s.dropWhile Text.isAsciiBlank)
  let r ← afterColon? r
  pure (digits, r)

/-- The column and the message. The column is left out if no message would follow it. -/
def columnAndMessage? (s : List Char) : Option (Option (List Char) × List Char) :=
  let withColumn := do
    let (digits, r) ← column? s
    let message ← message? r
    pure (some digits, message)
  withColumn.or ((message? s).map (none, ·))

/-- What stands behind the last dot of a path: its extension, the line, the column and the
message. -/
structure Ending where
  extension : List Char
  line : List Char
  column : Option (List Char)
  message : List Char
  deriving Repr, DecidableEq

/-- Reads what stands behind a dot, if that dot can be the last one of the path. -/
def ending? (s : List Char) : Option Ending := do
  let (extension, r) ← takeRun? Text.isAsciiLetter s
  let r ← afterColon? r
  let (line, r) ← takeRun? Text.isAsciiDigit r
  let r ← afterColon? r
  let (column, message) ← columnAndMessage? r
  pure ⟨extension, line, column, message⟩

/-- The longest path up to a dot behind which an ending can be read, with that ending. The
characters before the text are given in reverse. -/
def longestPath? (before : List Char) : List Char → Option (List Char × Ending)
  | [] => none
  | c :: r =>
    if c = '\n' then none
    else match longestPath? (c :: before) r with
      | some found => some found
      | none =>
        if c = '.' then
          (ending? r).map fun e => ((c :: before).reverse ++ e.extension, e)
        else none

/-- Reads the fields that follow a percent sign. -/
def fields? (s : List Char) : Option LineFields := do
  let (keyword, r) ← takeRun? isWordChar s
  let (code, r) ← takeCode? r
  let r ← afterColon? r
  let (path, e) ← longestPath? [] (r.dropWhile Text.isAsciiBlank)
  pure {
    keyword := String.ofList keyword
    code := code.map String.ofList
    path := String.ofList path
    lineText := String.ofList e.line
    columnText := e.column.map String.ofList
    message := String.ofList e.message }

/-- The fields at the leftmost percent sign that begins a diagnostic line. -/
def search? : List Char → Option LineFields
  | [] => none
  | c :: r =>
    if c = '%' then
      match fields? r with
      | some f => some f
      | none => search? r
    else search? r

end DiagnosticLine

def parseLine (text : String) : ParsedLine :=
  match DiagnosticLine.search? text.toList with
  | some fields => .matched fields
  | none => .unmatched text

end HdlLint
