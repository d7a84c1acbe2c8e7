import HdlLint.Report.CellWidth

/-!
# Styled texts

A styled text is a text of which some parts, the spans, are written in a style. Nothing of
a style can be seen without colours; but the cells of a text are counted span by span, so
its ends matter.

`slice` cuts a part out and `joined` puts parts together; `segments` are the parts between
the ends of spans. `segments_text` states that they hold the whole text.
-/

namespace HdlLint.Report

/-- A part of a text in a style, from one position up to another. A style may lack
words. -/
structure Span where
  start : Nat
  stop : Nat
  style : Option String
  deriving Repr, DecidableEq

/-- A text and the spans in it. -/
structure StyledText where
  chars : List Char
  spans : List Span
  deriving Repr, DecidableEq

namespace Span

/-- A span after as many characters have been put before it. -/
def shift (n : Nat) (s : Span) : Span :=
  { s with start := s.start + n, stop := s.stop + n }

/-- What a part of a text holds of a span, unless that is nothing. -/
def clip? (first last : Nat) (s : Span) : Option Span :=
  let start := max s.start first - first
  let stop := min s.stop last - first
  if start < stop then some ⟨start, stop, s.style⟩ else none

/-- What a text cut at a position holds of a span that begins before it. -/
def cut? (last : Nat) (s : Span) : Option Span :=
  if s.start < last then some { s with stop := min s.stop last } else none

end Span

namespace StyledText

/-- The part of a text from one position up to another. Spans that have nothing in it are
dropped. -/
def slice (t : StyledText) (first last : Nat) : StyledText :=
  ⟨(t.chars.drop first).take (last - first), t.spans.filterMap (Span.clip? first last)⟩

def takeFirst (t : StyledText) (n : Nat) : StyledText :=
  ⟨t.chars.take n, t.spans.filterMap (Span.cut? n)⟩

/-- The text with other characters in place of its own. Spans that stand out over them are
cut. -/
def withChars (t : StyledText) (s : List Char) : StyledText :=
  if s.length < t.chars.length then ⟨s, t.spans.filterMap (Span.cut? s.length)⟩
  else ⟨s, t.spans⟩

def joined : List StyledText → StyledText
  | [] => ⟨[], []⟩
  | t :: ts =>
    let rest := joined ts
    ⟨t.chars ++ rest.chars, t.spans ++ rest.spans.map (Span.shift t.chars.length)⟩

/-- The parts between positions. Without positions the text stays as it is. -/
def divide (t : StyledText) (positions : List Nat) : List StyledText :=
  if positions.isEmpty then [t]
  else ((0 :: positions).zip (positions ++ [t.chars.length])).map fun (first, last) =>
    t.slice first last

/-- The positions of a character, counted from a given one. -/
def positionsOf (c : Char) (n : Nat) : List Char → List Nat
  | [] => []
  | d :: r => if d = c then n :: positionsOf c (n + 1) r else positionsOf c (n + 1) r

def lines (t : StyledText) : List StyledText :=
  match positionsOf '\n' 0 t.chars with
  | [] => [t]
  | ends =>
    ((0 :: ends.map (· + 1)).zip (ends ++ [t.chars.length])).map fun (first, last) =>
      t.slice first last

/-- The characters cut before each of some positions. The characters are counted from a
given position. -/
def cutAt (positions : List Nat) (n : Nat) : List Char → List (List Char)
  | [] => []
  | c :: r =>
    match cutAt positions (n + 1) r with
    | [] => [[c]]
    | w :: ws => if positions.contains (n + 1) then [c] :: w :: ws else (c :: w) :: ws

theorem flatten_cutAt (positions : List Nat) (n : Nat) (s : List Char) :
    (cutAt positions n s).flatten = s := by
  induction s generalizing n with
  | nil => rfl
  | cons c r ih =>
    have h := ih (n + 1)
    unfold cutAt
    split
    · next heq => rw [heq] at h; simpa using h
    · next w ws heq =>
      rw [heq] at h
      split <;> simpa using h

/-- The parts of a text between the ends of its spans. -/
def segments (t : StyledText) : List (List Char) :=
  cutAt (t.spans.flatMap fun s => [s.start, s.stop]) 0 t.chars

/-- The segments hold the whole text. -/
theorem segments_text (t : StyledText) : t.segments.flatten = t.chars :=
  flatten_cutAt _ 0 t.chars

end StyledText

end HdlLint.Report
