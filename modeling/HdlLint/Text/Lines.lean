/-!
# Lines of a text

Lines end in a line feed, or in a carriage return and a line feed. `splitLines` gives one
piece more than the text has line feeds. `unifyLineEnds` writes line ends of all kinds as
line feeds.
-/

namespace HdlLint.Text

def linePieces : List Char → List (List Char)
  | [] => [[]]
  | '\r' :: '\n' :: r => [] :: linePieces r
  | '\n' :: r => [] :: linePieces r
  | c :: r =>
    match linePieces r with
    | [] => [[c]]
    | w :: ws => (c :: w) :: ws

/-- The pieces of a text between line ends. -/
def splitLines (s : String) : List String :=
  (linePieces s.toList).map String.ofList

/-- The text with line feeds for line ends of all kinds, a carriage return alone
included. -/
def unifyLineEnds : List Char → List Char
  | [] => []
  | '\r' :: '\n' :: r => '\n' :: unifyLineEnds r
  | '\r' :: r => '\n' :: unifyLineEnds r
  | c :: r => c :: unifyLineEnds r

end HdlLint.Text
