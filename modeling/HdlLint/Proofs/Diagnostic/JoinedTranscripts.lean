import HdlLint.Diagnostic.Transcript
import HdlLint.Proofs.Text.SplitTexts

/-!
# Transcripts in parts

A transcript may be read in parts, as long as it is cut behind a line: what the parts say
follows one another, in the set and in the log.  Nor does it matter how line ends are
written.

* `read_eq_of_lines`: what is read depends on the lines only.
* `readLines_append`: lines are read one after another.
* `read_parts_and_respelled`: a transcript in two parts, and one with line ends of another
  kind.
-/

namespace HdlLint
namespace Transcript

/-- What is read from lines: the diagnostics in the order of the lines, and what is
logged. -/
def readLines (scope : PathScope) (lines : List String) : List Diagnostic × List Event :=
  (lines.filterMap fun line => (readLine scope line).1,
    lines.flatMap fun line => (readLine scope line).2)

section Lines

variable (scope : PathScope)

/-- What is read depends on the lines only. -/
theorem read_eq_of_lines
    (transcript : String) :
    read scope transcript =
      (.ofList (readLines scope (Text.splitLines transcript)).1,
        (readLines scope (Text.splitLines transcript)).2) := by
  unfold read readLines
  simp only [List.filterMap_map, List.flatMap_map, Function.comp_def]

theorem readLines_append
    (lines more : List String) :
    readLines scope (lines ++ more) =
      ((readLines scope lines).1 ++ (readLines scope more).1,
        (readLines scope lines).2 ++ (readLines scope more).2) := by
  simp only [readLines, List.filterMap_append, List.flatMap_append]

theorem readLines_cons
    (line : String) (more : List String) :
    readLines scope (line :: more) =
      ((readLine scope line).1.toList ++ (readLines scope more).1,
        (readLine scope line).2 ++ (readLines scope more).2) := by
  unfold readLines
  cases hline : (readLine scope line).1 <;> simp [hline]

end Lines

section Parts

variable {first second transcript : String}

theorem splitLines_append_newline
    (h : first.toList.getLast? ≠ some '\r') (second : String) :
    Text.splitLines (first ++ "\n" ++ second) =
      Text.splitLines first ++ Text.splitLines second := by
  have htext : (first ++ "\n" ++ second).toList =
      first.toList ++ '\n' :: second.toList := by
    simp
  rw [Text.splitLines, htext, Text.linePieces_append_newline h, List.map_append]
  rfl

theorem splitLines_respelled
    (h : ¬ ['\r', '\n'] <:+: transcript.toList) (ends : Nat → Text.LineEnd) :
    Text.splitLines (String.ofList (Text.respelled ends transcript.toList)) =
      Text.splitLines transcript := by
  rw [Text.splitLines, String.toList_ofList, Text.linePieces_respelled h]
  rfl

/-- Reading two parts with a line feed between them adds the diagnostics of the second
part to those of the first one, in the order of its lines, and logs what the parts log,
one after the other; only a carriage return at the end of the first part would be lost.
Where no carriage return stands before a line feed, writing line feeds as line ends of
either kind changes nothing. -/
theorem read_parts_and_respelled
    (scope : PathScope) (first second transcript : String) (ends : Nat → Text.LineEnd) :
    (first.toList.getLast? ≠ some '\r' →
      (read scope (first ++ "\n" ++ second)).1 =
        ((Text.splitLines second).filterMap fun line => (readLine scope line).1).foldl
          DiagnosticSet.add
          (read scope first).1 ∧
      (read scope (first ++ "\n" ++ second)).2 =
        (read scope first).2 ++ (read scope second).2) ∧
    (¬ ['\r', '\n'] <:+: transcript.toList →
      read scope (String.ofList (Text.respelled ends transcript.toList)) =
        read scope transcript) := by
  constructor
  · intro hfirst
    have hlines := splitLines_append_newline hfirst second
    constructor
    · rw [read_eq_of_lines, hlines, readLines_append, DiagnosticSet.ofList,
        List.foldl_append, read_eq_of_lines]
      rfl
    · simp only [read_eq_of_lines, hlines, readLines_append]
  · intro hfeeds
    rw [read_eq_of_lines, splitLines_respelled hfeeds, ← read_eq_of_lines]

/-- A part that ends in a line end of two characters, and one that begins with a carriage
return. -/
theorem read_parts_and_respelled_returns :
    let scope : PathScope := ⟨true, none, .host⟩
    let first := "%Error: a.v:1: m\r\n"
    let second := "\r\n%Warning: b.v:2: n\r"
    let transcript := "%Error: a.v:1: m\n\n\r%Warning: b.v:2: n"
    let ends : Nat → Text.LineEnd := fun n => if n = 1 then .crlf else .lf
    (first.toList.getLast? ≠ some '\r' ∧
      (read scope (first ++ "\n" ++ second)).2 =
        (read scope first).2 ++ (read scope second).2) ∧
    ¬ ['\r', '\n'] <:+: transcript.toList ∧
    String.ofList (Text.respelled ends transcript.toList) =
      "%Error: a.v:1: m\n\r\n\r%Warning: b.v:2: n" ∧
    read scope (String.ofList (Text.respelled ends transcript.toList)) =
      read scope transcript := by
  intro scope first second transcript ends
  have hfirst : first.toList.getLast? ≠ some '\r' := by
    decide +kernel
  have hfeeds : ¬ ['\r', '\n'] <:+: transcript.toList := by
    decide +kernel
  have hread := read_parts_and_respelled scope first second transcript ends
  exact ⟨⟨hfirst, (hread.1 hfirst).2⟩, hfeeds, by decide +kernel, hread.2 hfeeds⟩

end Parts

end Transcript
end HdlLint
