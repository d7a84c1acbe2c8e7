import HdlLint.Child.Run
import HdlLint.Proofs.Diagnostic.JoinedTranscripts
import HdlLint.Proofs.Text.Utf8Characters

/-!
# The lines of what a linter wrote

The bytes that a linter wrote are decoded line by line, whatever they are: a character
that is cut off ends with its line, and no line feed is made up or lost.  So bytes put in
place of one line do not show in the lines around it.

* `decodeLossy_append_newline`: what stands before a line feed and what stands behind it
  are decoded on their own.
* `exists_lines_above`: the lines above do not depend on what follows them.
* `exists_lines_below`: the lines below do not depend on the line before them.
* `decoded_by_lines`: what a run returns, and what is read from it when one line is
  replaced.
-/

namespace HdlLint
namespace LinterRun

open Text Utf8

/-- A place for a line among bytes: what stands above it is made of whole lines, and a
line end stands below it, if anything. -/
structure LinePlace where
  above : List UInt8
  below : List UInt8
  begins : above = [] ∨ above.getLast? = some 0x0A
  ends : below = [] ∨ [0x0A] <+: below ∨ [0x0D, 0x0A] <+: below

/-- The bytes with a line in that place. -/
def LinePlace.filled (place : LinePlace) (line : List UInt8) : List UInt8 :=
  place.above ++ (line ++ place.below)

section Decoding

theorem run_append_newline
    (a b : List UInt8) :
    Utf8.run none (a ++ 0x0A :: b) = Utf8.run none a ++ '\n' :: Utf8.run none b :=
  run_append_ascii soundState_none a (by decide) b

/-- What stands before a line feed and what stands behind it are decoded on their own. -/
theorem decodeLossy_append_newline
    (a b : List UInt8) :
    decodeLossy (a ++ 0x0A :: b) = decodeLossy a ++ "\n" ++ decodeLossy b := by
  rw [decodeLossy, run_append_newline, ← String.toList_inj]
  simp [decodeLossy]

theorem newline_not_mem_run
    {line : List UInt8}
    (h : 0x0A ∉ line) :
    '\n' ∉ Utf8.run none line := by
  rw [← List.count_eq_zero, count_newline_run soundState_none]
  exact List.count_eq_zero_of_not_mem h

end Decoding

section Place

/-- The lines above do not depend on what follows them. -/
theorem exists_lines_above
    (place : LinePlace) :
    ∃ before : List (List Char),
      before.length = place.above.count 0x0A ∧
      ∀ rest : List UInt8,
        linePieces (Utf8.run none (place.above ++ rest)) =
          before ++ linePieces (Utf8.run none rest) := by
  obtain habove | hlast := place.begins
  · exact ⟨[], by rw [habove]; rfl, fun rest => by rw [habove]; rfl⟩
  · obtain ⟨a, habove⟩ := List.getLast?_eq_some_iff.mp hlast
    obtain ⟨before, hlength, hbefore⟩ := exists_pieces_before (Utf8.run none a)
    refine ⟨before, ?_, fun rest => ?_⟩
    · rw [hlength, count_newline_run soundState_none, habove, List.count_append]
      rfl
    · rw [habove, List.append_assoc, List.singleton_append, run_append_newline, hbefore]

/-- The lines below do not depend on the line before them. -/
theorem exists_lines_below
    (place : LinePlace) :
    ∃ after : List (List Char),
      after.length = place.below.count 0x0A ∧
      ∀ line : List UInt8, 0x0A ∉ line →
        ∃ l : List Char,
          (line.getLast? ≠ some 0x0D → l = Utf8.run none line) ∧
          linePieces (Utf8.run none (line ++ place.below)) = l :: after := by
  obtain hbelow | ⟨r, hbelow⟩ | ⟨r, hbelow⟩ := place.ends
  · refine ⟨[], by rw [hbelow]; rfl,
      fun line hline => ⟨Utf8.run none line, fun _ => rfl, ?_⟩⟩
    rw [hbelow, List.append_nil, linePieces_line (newline_not_mem_run hline)]
  · refine ⟨linePieces (Utf8.run none r), ?_,
      fun line hline => ⟨withoutReturn (Utf8.run none line), ?_, ?_⟩⟩
    · rw [← hbelow, length_linePieces, count_newline_run soundState_none,
        List.singleton_append, List.count_cons_self]
    · intro hlast
      rw [withoutReturn, if_neg fun h => hlast (getLast?_of_run soundState_none h)]
    · rw [← hbelow, List.singleton_append, run_append_newline,
        linePieces_line_newline (newline_not_mem_run hline)]
  · refine ⟨linePieces (Utf8.run none r), ?_,
      fun line hline => ⟨Utf8.run none line, fun _ => rfl, ?_⟩⟩
    · rw [← hbelow, length_linePieces, count_newline_run soundState_none]
      simp
    · -- the carriage return is read as the last character of the line, and belongs to the
      -- line end
      have hdecoded : Utf8.run none (line ++ place.below) =
          (Utf8.run none line ++ ['\r']) ++ '\n' :: Utf8.run none r := by
        rw [← hbelow, List.cons_append, List.cons_append, List.nil_append,
          run_append_ascii soundState_none line (by decide), List.append_assoc]
        exact congrArg (Utf8.run none line ++ '\r' :: ·) (run_append_newline [] r)
      have hfeed : '\n' ∉ Utf8.run none line ++ ['\r'] := by
        simpa using newline_not_mem_run hline
      rw [hdecoded, linePieces_line_newline hfeed]
      simp [withoutReturn]

end Place

section Output

/-- A linter that ended is run for what it wrote, decoded: the text of bytes around a line
feed is the text of the bytes before it, a line feed and the text of the bytes behind it,
and an encoded text is itself.  Whatever bytes without a line feed stand in place of one
line, the lines above and below are the same, and what is read and logged from them is. -/
theorem decoded_by_lines
    (scope : PathScope) (i : Invocation) {limit : Value}
    (hlimit : limitStrikesAtOnce limit = false) :
    (∀ (output errors : List UInt8) (code : Option Int),
      (run i limit (.ends output errors code)).1 =
        .ok ⟨code.getD unknownCode, decodeLossy output, decodeLossy errors⟩) ∧
    (∀ a b : List UInt8, decodeLossy (a ++ 0x0A :: b) = decodeLossy a ++
      "\n" ++ decodeLossy b) ∧
    (∀ text : String, decodeLossy text.toUTF8.data.toList = text) ∧
    ∀ place : LinePlace, ∃ before after : List String,
      before.length = place.above.count 0x0A ∧
      after.length = place.below.count 0x0A ∧
      ∀ line : List UInt8, 0x0A ∉ line →
        ∃ l : String,
          (line.getLast? ≠ some 0x0D → l = decodeLossy line) ∧
          splitLines (decodeLossy (place.filled line)) = before ++ l :: after ∧
          Transcript.read scope (decodeLossy (place.filled line)) =
            (.ofList ((Transcript.readLines scope before).1 ++
                ((Transcript.readLine scope l).1.toList ++
                  (Transcript.readLines scope after).1)),
              (Transcript.readLines scope before).2 ++
                ((Transcript.readLine scope l).2 ++
                  (Transcript.readLines scope after).2)) := by
  refine ⟨fun output errors code => ?_, decodeLossy_append_newline,
    decodeLossy_toUTF8, fun place => ?_⟩
  · simp [LinterRun.run, launch, await, hlimit]
  · obtain ⟨before, hbeforeLength, hbefore⟩ := exists_lines_above place
    obtain ⟨after, hafterLength, hafter⟩ := exists_lines_below place
    refine ⟨before.map String.ofList, after.map String.ofList, ?_,
      ?_, fun line hline => ?_⟩
    · rw [List.length_map, hbeforeLength]
    · rw [List.length_map, hafterLength]
    · obtain ⟨l, hl, hpieces⟩ := hafter line hline
      have hlines : splitLines (decodeLossy (place.filled line)) =
          before.map String.ofList ++ String.ofList l :: after.map String.ofList := by
        rw [splitLines, decodeLossy, String.toList_ofList, LinePlace.filled, hbefore,
          hpieces, List.map_append,
          List.map_cons]
      refine ⟨String.ofList l, fun hlast => congrArg String.ofList (hl hlast), hlines, ?_⟩
      rw [Transcript.read_eq_of_lines, hlines, Transcript.readLines_append,
        Transcript.readLines_cons]

/-- Output whose characters are cut off by line feeds, and a line of two bytes out of
three between two lines. -/
theorem decoded_by_lines_cut_off :
    let i : Invocation := ⟨["verilator", "a.v"], none, "a.v", "a.v", "."⟩
    let above := "%Error: a.v:1: m\n".toUTF8.data.toList
    let below := "\r\n%Warning: b.v:2: n".toUTF8.data.toList
    limitStrikesAtOnce (.int 1) = false ∧
    (run i (.int 1) (.ends [0xE2, 0x82, 0x0A, 0xAC] [0xC3] none)).1 =
      .ok ⟨-1, "\uFFFD\n\uFFFD", "\uFFFD"⟩ ∧
    decodeLossy "€\n".toUTF8.data.toList = "€\n" ∧
    ∃ before after : List String, before.length = 1 ∧ after.length = 1 ∧
      splitLines (decodeLossy (above ++ ([0xE2, 0x82] ++ below))) =
        before ++ "\uFFFD" :: after := by
  intro i above below
  have hlimit : limitStrikesAtOnce (.int 1) = false := by
    decide
  obtain ⟨hrun, hfeed, htext, hplace⟩ := decoded_by_lines ⟨true, none, .host⟩ i hlimit
  refine ⟨hlimit, ?_, htext "€\n", ?_⟩
  · have houtput :
        (⟨none.getD unknownCode, decodeLossy [0xE2, 0x82] ++ "\n" ++ decodeLossy [0xAC],
        decodeLossy [0xC3]⟩ : LinterOutput) = ⟨-1, "\uFFFD\n\uFFFD", "\uFFFD"⟩ := by
      decide +kernel
    rw [hrun, show [0xE2, 0x82, 0x0A, 0xAC] = [0xE2, 0x82] ++ 0x0A ::
      [(0xAC : UInt8)] from rfl, hfeed, houtput]
  · obtain ⟨before, after, hbefore, hafter, hline⟩ :=
      hplace ⟨above, below, .inr (by decide +kernel), .inr (.inr (by decide +kernel))⟩
    obtain ⟨l, hl, hlines, -⟩ := hline [0xE2, 0x82] (by decide)
    refine ⟨before, after, ?_, ?_, ?_⟩
    · rw [hbefore]
      decide +kernel
    · rw [hafter]
      decide +kernel
    · rw [hl (by decide),
        show decodeLossy [0xE2, 0x82] = "\uFFFD" by decide +kernel] at hlines
      exact hlines

end Output

end LinterRun
end HdlLint
