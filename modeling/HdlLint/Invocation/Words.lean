/-!
# Words of an argument line

An argument line is split into words at blanks. Single and double quotes hold blanks
together, and a backslash takes the next character as it is, inside double quotes only
before a double quote or a backslash. A pair of quotes makes a word even when nothing
stands in it. On platforms whose paths hold backslashes the backslash is an ordinary
character.
-/

namespace HdlLint

/-- Why an argument line cannot be split. -/
inductive WordFault where
  | unclosedQuote
  | nothingEscaped
  deriving Repr, DecidableEq

def WordFault.message : WordFault → String
  | unclosedQuote => "No closing quotation"
  | nothingEscaped => "No escaped character"

namespace Words

def isGap (c : Char) : Bool :=
  c = ' ' || c = '\t' || c = '\r' || c = '\n'

/-- The characters that hold blanks together. -/
def isQuote (c : Char) : Bool :=
  c = '\x27' || c = '\x22'

/-- Where in a line a splitter stands. -/
inductive Place where
  /-- Between words. -/
  | gap
  /-- In a word, outside quotes. -/
  | word
  /-- In a word, behind the given quote. -/
  | quoted (quote : Char)
  /-- Behind a backslash, which stands outside quotes or behind the given one. -/
  | escaped (quote : Option Char)
  deriving Repr, DecidableEq

/-- Splits the rest of a line. The characters of the word so far are given in reverse. -/
def split (escapes : Bool) : Place → List Char → List Char →
    Except WordFault (List (List Char))
  | .gap, _, [] => .ok []
  | .word, w, [] => .ok [w.reverse]
  | .quoted _, _, [] => .error .unclosedQuote
  | .escaped _, _, [] => .error .nothingEscaped
  | .gap, _, c :: r =>
    if isGap c then split escapes .gap [] r
    else if escapes && c = '\\' then split escapes (.escaped none) [] r
    else if isQuote c then split escapes (.quoted c) [] r
    else split escapes .word [c] r
  | .word, w, c :: r =>
    if isGap c then (split escapes .gap [] r).map (w.reverse :: ·)
    else if isQuote c then split escapes (.quoted c) w r
    else if escapes && c = '\\' then split escapes (.escaped none) w r
    else split escapes .word (c :: w) r
  | .quoted q, w, c :: r =>
    if c = q then split escapes .word w r
    else if escapes && c = '\\' && q = '\x22' then split escapes (.escaped (some q)) w r
    else split escapes (.quoted q) (c :: w) r
  | .escaped none, w, c :: r => split escapes .word (c :: w) r
  | .escaped (some q), w, c :: r =>
    if c = q || c = '\\' then split escapes (.quoted q) (c :: w) r
    else split escapes (.quoted q) (c :: '\\' :: w) r

end Words

/-- The words of an argument line. -/
def splitWords (escapes : Bool) (line : String) : Except WordFault (List String) :=
  (Words.split escapes .gap [] line.toList).map fun ws => ws.map String.ofList

end HdlLint
