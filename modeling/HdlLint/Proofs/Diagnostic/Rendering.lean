import HdlLint.Proofs.Diagnostic.LeftmostLine
import HdlLint.Proofs.Text.DecimalLiteral
import HdlLint.Diagnostic.Transcript

/-!
# Writing diagnostics as lines

`Diagnostic.render` writes a diagnostic as the linter does: the first word for its
severity, the code unless it is the name of the linter, the path, line and column counted
from one, and the message.  The column may be left out.

`Renderable` collects what makes such a line unambiguous.  Each condition excludes one way
in which the reader would see something else: a path that does not end in a dot and
letters, a message with blanks in front, or a message in which a second path could end.

* `Renderable.header`: the header of the line is the one that is read.
* `Renderable.message?_eq` and `ColumnOptional.not_columnAt`: so is the message, with a
  column before it and without.
-/

namespace HdlLint

open Text DiagnosticLine

/-- The first word of the lines of a severity. -/
def Severity.keyword : Severity → String
  | error => "Error"
  | warning => "Warning"
  | information => "Info"

@[simp] theorem Severity.ofKeyword_keyword
    (s : Severity) :
    Severity.ofKeyword s.keyword = s := by
  cases s <;> decide

namespace Diagnostic

/-- The code of a line.  The name of the linter stands for no code. -/
def writtenCode (d : Diagnostic) : Option String :=
  if d.code = linterName then none else some d.code

/-- The column of a line, counted from one, if it is to be written. -/
def writtenColumn (d : Diagnostic) (withColumn : Bool) : Option String :=
  if withColumn then some (toString (d.column + 1)) else none

/-- What stands between the colon of the line number and the message. -/
def columnPart (d : Diagnostic) (withColumn : Bool) : String :=
  match d.writtenColumn withColumn with
  | some column => column ++ ":"
  | none => ""

/-- What stands between the first word and its colon. -/
def codePart (d : Diagnostic) : String :=
  match d.writtenCode with
  | some code => "-" ++ code
  | none => ""

/-- The line that reports a diagnostic. -/
def render (d : Diagnostic) (withColumn : Bool) : String :=
  "%" ++ d.severity.keyword ++ d.codePart ++ ": " ++ d.path ++ ":" ++
    toString (d.line + 1) ++ ":" ++
    d.columnPart withColumn ++ " " ++ d.message

/-- The fields of that line. -/
def fields (d : Diagnostic) (withColumn : Bool) : LineFields where
  keyword := d.severity.keyword
  code := d.writtenCode
  path := d.path
  lineText := toString (d.line + 1)
  columnText := d.writtenColumn withColumn
  message := d.message

/-- A place counted from zero whose number, counted from one, has at most as many digits
as a literal may have. -/
structure IsPlace (n : Int) : Prop where
  nonneg : 0 ≤ n
  digits_le : (toString (n + 1)).length ≤ maxDigits

/-- No second path can end in a text: nowhere in it stand a dot, letters, a colon, digits
and a colon. -/
def HoldsNoLocation (s : List Char) : Prop :=
  ∀ before extension digits after : List Char,
    IsRun isAsciiLetter extension → IsRun isAsciiDigit digits →
      s ≠ before ++ '.' :: (extension ++ ':' :: (digits ++ ':' :: after))

theorem HoldsNoLocation.of_no_dot
    {s : List Char}
    (h : '.' ∉ s) :
    HoldsNoLocation s := by
  rintro before extension digits after - - rfl
  exact h (by simp)

/-- A text does not begin like a column with something behind it. -/
def BeginsWithNoColumn (s : List Char) : Prop :=
  ∀ digits after : List Char,
    IsRun isAsciiDigit digits → after ≠ [] → s ≠ digits ++ ':' :: after

theorem BeginsWithNoColumn.of_head?
    {s : List Char}
    (h : ∀ c ∈ s.head?, isAsciiDigit c = false) :
    BeginsWithNoColumn s := by
  rintro digits after ⟨hne, hdigits⟩ - rfl
  obtain ⟨c, w, rfl⟩ := List.exists_cons_of_ne_nil hne
  have hc := h c rfl
  rw [hdigits c List.mem_cons_self] at hc
  cases hc

/-- What makes the line of a diagnostic unambiguous. -/
structure Renderable (d : Diagnostic) : Prop where
  source_eq : d.source = linterName
  code_form : d.code = linterName ∨ IsRun isCodeChar d.code.toList
  path_isPath : IsPath d.path.toList
  path_start : ∀ c ∈ d.path.toList.head?, isAsciiBlank c = false
  line_isPlace : IsPlace d.line
  column_isPlace : IsPlace d.column
  message_nonempty : d.message ≠ ""
  message_line : '\n' ∉ d.message.toList
  message_start : ∀ c ∈ d.message.toList.head?, isAsciiBlank c = false
  message_end : d.message.toList.getLast? ≠ some '\r'
  message_noLocation : HoldsNoLocation d.message.toList

/-- When the column may be left out: it is zero, and no column seems to stand there. -/
structure ColumnOptional (d : Diagnostic) : Prop where
  column_eq : d.column = 0
  message_noColumn : BeginsWithNoColumn d.message.toList

section Places

variable {n : Int}

theorem IsPlace.toString_eq
    (h : IsPlace n) :
    toString (n + 1) = (n.toNat + 1).repr := by
  obtain ⟨k, rfl⟩ := Int.eq_ofNat_of_zero_le h.nonneg
  rfl

/-- A place is written with ASCII digits. -/
theorem IsPlace.isRun
    (h : IsPlace n) :
    IsRun isAsciiDigit (toString (n + 1)).toList := by
  rw [h.toString_eq, Nat.toList_repr]
  exact ⟨Nat.toDigits_ne_nil, fun c hc => isAsciiDigit_of_mem_toDigits hc⟩

theorem IsPlace.zeroBased?
    (h : IsPlace n) :
    LineFields.zeroBased? (toString (n + 1)) = some n := by
  have hlen := h.digits_le
  have hn : ((n.toNat : Nat) : Int) = n := Int.toNat_of_nonneg h.nonneg
  rw [h.toString_eq] at hlen ⊢
  unfold LineFields.zeroBased?
  rw [integer?_repr hlen]
  simp [hn]

end Places

section Lines

variable {d : Diagnostic} {withColumn : Bool}

/-- What follows the colon of the line number. -/
def tail (d : Diagnostic) (withColumn : Bool) : List Char :=
  (d.columnPart withColumn).toList ++ ' ' :: d.message.toList

/-- What follows the colon of the first word. -/
def body (d : Diagnostic) (withColumn : Bool) : List Char :=
  d.path.toList ++ ':' :: ((toString (d.line + 1)).toList ++ ':' :: d.tail withColumn)

theorem toList_render
    (d : Diagnostic) (withColumn : Bool) :
    (d.render withColumn).toList =
      '%' :: (d.severity.keyword.toList ++
        (codeText (d.writtenCode.map String.toList) ++ ':' :: ' ' ::
          d.body withColumn)) := by
  have hcode : codeText (d.writtenCode.map String.toList) = d.codePart.toList := by
    unfold codePart
    cases d.writtenCode <;> simp [codeText]
  rw [hcode]
  simp [render, body, tail]

theorem Renderable.header
    (h : d.Renderable) (withColumn : Bool) :
    Header
      (d.severity.keyword.toList ++
        (codeText (d.writtenCode.map String.toList) ++ ':' :: ' ' :: d.body withColumn))
      d.severity.keyword.toList (d.writtenCode.map String.toList)
        (' ' :: d.body withColumn) := by
  refine ⟨rfl, ?_, ?_⟩
  · cases d.severity <;> decide +kernel
  · intro c hc
    obtain ⟨code, hcode, rfl⟩ := Option.map_eq_some_iff.mp hc
    unfold writtenCode at hcode
    split at hcode
    · cases hcode
    · rename_i hne
      obtain rfl := Option.some.inj hcode
      exact h.code_form.resolve_left hne

theorem Renderable.message_ne_nil
    (h : d.Renderable) :
    d.message.toList ≠ [] := by
  intro hnil
  exact h.message_nonempty (String.toList_inj.mp hnil)

theorem blank_space :
    ∀ c ∈ [' '], isAsciiBlank c = true :=
  List.forall_mem_singleton.mpr (by decide)

/-- Behind blanks the message is read whole. -/
theorem Renderable.message?_eq
    (h : d.Renderable) :
    message? (' ' :: d.message.toList) = some d.message.toList := by
  exact message?_of_blanks blank_space h.message_ne_nil h.message_start h.message_line

/-- Without a column the blank and the message do not look like one. -/
theorem ColumnOptional.not_columnAt
    (h : d.ColumnOptional) (hd : d.Renderable) (digits r : List Char) :
    ¬ ColumnAt (' ' :: d.message.toList) digits r := by
  rintro ⟨blanks, hs, hblanks, hdigits, c, hc, -⟩
  have hmessage : d.message.toList = digits ++ ':' :: r := by
    have hdrop := congrArg (List.dropWhile isAsciiBlank) hs
    rw [dropWhile_run hblanks] at hdrop
    · rw [← hdrop]
      exact (dropWhile_run blank_space hd.message_start).symm
    · exact not_isAsciiBlank_head?_digits hdigits (':' :: r)
  exact h.message_noColumn digits r hdigits (List.ne_nil_of_mem hc) hmessage

end Lines

end Diagnostic
end HdlLint
