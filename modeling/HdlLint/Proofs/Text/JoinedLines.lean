import HdlLint.Text.Lines
import Mathlib.Tactic

/-!
# Joining lines and splitting them again

Lines may be joined with line ends of two kinds.  Splitting undoes this as long as no line
holds a line feed and no line but the last one ends in a carriage return, which a
following line feed would take for its own.

* `linePieces_append`: a text without line feeds is put in front of the first piece.
* `splitLines_joinLines`: splitting joined lines gives the lines.
-/

namespace HdlLint
namespace Text

/-- The two kinds of line ends. -/
inductive LineEnd where
  | lf
  | crlf
  deriving Repr, DecidableEq

/-- The characters of a line end. -/
def LineEnd.text : LineEnd → String
  | lf => "\n"
  | crlf => "\r\n"

/-- Lines with their line ends between them.  The line end of the last line is not
used. -/
def joinLines : List (String × LineEnd) → String
  | [] => ""
  | [(line, _)] => line
  | (line, ending) :: next :: rest => line ++ (ending.text ++ joinLines (next :: rest))

theorem linePieces_ne_nil
    (s : List Char) :
    linePieces s ≠ [] := by
  fun_cases linePieces s <;> simp_all

/-- A character that begins no line end is put in front of the first piece. -/
theorem linePieces_cons
    {c : Char} {s : List Char}
    (hc : c ≠ '\n')
    (hcr : c = '\r' → s.head? ≠ some '\n') :
    ∃ (w : List Char) (ws : List (List Char)),
      linePieces s = w :: ws ∧ linePieces (c :: s) = (c :: w) :: ws := by
  obtain ⟨w, ws, hs⟩ := List.exists_cons_of_ne_nil (linePieces_ne_nil s)
  refine ⟨w, ws, hs, ?_⟩
  rw [linePieces.eq_4, hs]
  · intro r hc' hs'
    subst hs'
    exact hcr hc' rfl
  · exact hc

/-- A text without line feeds is put in front of the first piece. -/
theorem linePieces_append
    {line s : List Char}
    (hline : '\n' ∉ line)
    (hcr : line.getLast? = some '\r' → s.head? ≠ some '\n') :
    ∃ (w : List Char) (ws : List (List Char)),
      linePieces s = w :: ws ∧ linePieces (line ++ s) = (line ++ w) :: ws := by
  induction line with
  | nil =>
      obtain ⟨w, ws, hs⟩ := List.exists_cons_of_ne_nil (linePieces_ne_nil s)
      exact ⟨w, ws, hs, hs⟩
  | cons c line ih =>
      simp only [List.mem_cons, not_or] at hline
      have hlast : line.getLast? = some '\r' → s.head? ≠ some '\n' := by
        intro h
        refine hcr ?_
        rw [List.getLast?_cons, h]
        rfl
      obtain ⟨w, ws, hs, hpieces⟩ := ih hline.2 hlast
      have hnext : c = '\r' → (line ++ s).head? ≠ some '\n' := by
        rintro rfl
        cases line with
        | nil =>
            exact hcr rfl
        | cons d line =>
            intro h
            obtain rfl := Option.some.inj h
            exact hline.2 List.mem_cons_self
      obtain ⟨w', ws', hs', hcons⟩ := linePieces_cons (Ne.symm hline.1) hnext
      rw [hpieces] at hs'
      obtain ⟨rfl, rfl⟩ := List.cons.inj hs'
      exact ⟨w, ws, hs, hcons⟩

/-- A line end ends a piece. -/
theorem linePieces_lineEnd
    (ending : LineEnd) (s : List Char) :
    linePieces (ending.text.toList ++ s) = [] :: linePieces s := by
  cases ending <;> rfl

/-- Splitting joined lines gives the lines. -/
theorem splitLines_joinLines
    {lines : List (String × LineEnd)}
    (hne : lines ≠ [])
    (hline : ∀ l ∈ lines, '\n' ∉ l.1.toList)
    (hcr : ∀ l ∈ lines.dropLast, l.1.toList.getLast? ≠ some '\r') :
    splitLines (joinLines lines) = lines.map (·.1) := by
  induction lines with
  | nil =>
      exact absurd rfl hne
  | cons l rest ih =>
      obtain ⟨line, ending⟩ := l
      have hfirst : '\n' ∉ line.toList := hline (line, ending) List.mem_cons_self
      cases rest with
      | nil =>
          obtain ⟨w, ws, hs, hpieces⟩ :=
            linePieces_append (s := []) hfirst (by simp)
          obtain ⟨rfl, rfl⟩ := List.cons.inj hs
          rw [List.append_nil] at hpieces
          simp [joinLines, splitLines, hpieces]
      | cons next rest =>
          have hrest :
              splitLines (joinLines (next :: rest)) = (next :: rest).map (·.1) := by
            refine ih (by simp) (fun l hl => hline l (List.mem_cons_of_mem _ hl)) ?_
            intro l hl
            exact hcr l (List.mem_cons_of_mem _ hl)
          have hend : line.toList.getLast? = some '\r' →
              (ending.text.toList ++ (joinLines (next :: rest)).toList).head? ≠
                some '\n' := by
            intro h
            exact absurd h (hcr (line, ending) List.mem_cons_self)
          obtain ⟨w, ws, hs, hpieces⟩ := linePieces_append hfirst hend
          rw [linePieces_lineEnd] at hs
          obtain ⟨rfl, rfl⟩ := List.cons.inj hs
          rw [List.append_nil] at hpieces
          unfold splitLines at hrest ⊢
          simp only [joinLines, String.toList_append, hpieces,
            List.map_cons, String.ofList_toList,
            hrest]

end Text
end HdlLint
