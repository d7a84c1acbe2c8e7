import HdlLint.Proofs.Text.JoinedLines

/-!
# Splitting texts that were put together

A line feed separates what stands before it from what stands behind it: the pieces of a
text with a line feed in it are those of the two parts.  Only a carriage return in front
of the line feed is lost, since it belongs to the line end.

* `lineInduction`: a text is a line, or a line before another text.
* `length_linePieces`: there is one piece more than there are line feeds.
* `linePieces_append_newline`: two texts with a line feed between them.
* `exists_pieces_before`: the pieces before a line feed do not depend on what follows it.
* `linePieces_respelled`: line feeds may be written as line ends of either kind.
-/

namespace HdlLint
namespace Text

/-- A line without the carriage return that belongs to its line end. -/
def withoutReturn (line : List Char) : List Char :=
  if line.getLast? = some '\r' then line.dropLast else line

/-- A text with line ends in place of its line feeds, in order. -/
def respelled (ends : Nat → LineEnd) : List Char → List Char
  | [] => []
  | c :: r =>
    if c = '\n' then (ends 0).text.toList ++ respelled (fun n => ends (n + 1)) r
    else c :: respelled ends r

/-- Every text is a line without a line feed, or such a line with a line feed and another
text behind it. -/
theorem lineInduction
    {motive : List Char → Prop}
    (last : ∀ line : List Char, '\n' ∉ line → motive line)
    (more : ∀ line rest : List Char, '\n' ∉ line → motive rest →
      motive (line ++ '\n' :: rest))
    (s : List Char) :
    motive s := by
  by_cases hfeed : '\n' ∈ s
  · obtain ⟨line, rest, hs, hline⟩ := List.eq_append_cons_of_mem hfeed
    have hshorter : rest.length < s.length := by
      rw [hs, List.length_append, List.length_cons]
      omega
    rw [hs]
    exact more line rest hline (lineInduction last more rest)
  · exact last s hfeed
termination_by s.length

section Lines

variable {line : List Char}

theorem getLast?_append_newline
    (s : List Char) :
    (line ++ '\n' :: s).getLast? = some (s.getLast?.getD '\n') := by
  rw [List.getLast?_append, List.getLast?_cons]
  rfl

/-- A line without a line feed is one piece. -/
theorem linePieces_line
    (h : '\n' ∉ line) :
    linePieces line = [line] := by
  obtain ⟨w, ws, hs, hpieces⟩ := linePieces_append (s := []) h (by simp)
  obtain ⟨rfl, rfl⟩ := List.cons.inj hs
  simpa using hpieces

/-- A line without a carriage return at its end is a piece, whatever the line end behind
it. -/
theorem linePieces_line_lineEnd
    (h : '\n' ∉ line)
    (hcr : line.getLast? ≠ some '\r') (ending : LineEnd) (t : List Char) :
    linePieces (line ++ (ending.text.toList ++ t)) = line :: linePieces t := by
  obtain ⟨w, ws, hs, hpieces⟩ :=
    linePieces_append (s := ending.text.toList ++ t) h fun hlast => absurd hlast hcr
  rw [linePieces_lineEnd] at hs
  obtain ⟨rfl, rfl⟩ := List.cons.inj hs
  rw [hpieces, List.append_nil]

/-- A line before a line feed is a piece but for a carriage return at its end. -/
theorem linePieces_line_newline
    (h : '\n' ∉ line) (t : List Char) :
    linePieces (line ++ '\n' :: t) = withoutReturn line :: linePieces t := by
  unfold withoutReturn
  split
  · rename_i hlast
    obtain ⟨w, rfl⟩ := List.getLast?_eq_some_iff.mp hlast
    have hw : '\n' ∉ w := fun hmem => h (List.mem_append_left _ hmem)
    obtain ⟨w', ws, hs, hpieces⟩ := linePieces_append
      (s := '\r' :: '\n' :: t) hw (by simp)
    rw [show linePieces ('\r' :: '\n' :: t) = [] ::
      linePieces t from linePieces_lineEnd .crlf t] at hs
    obtain ⟨rfl, rfl⟩ := List.cons.inj hs
    simpa using hpieces
  · rename_i hlast
    exact linePieces_line_lineEnd h hlast .lf t

end Lines

section TwoTexts

/-- Behind a text without a carriage return at its end, a line feed separates the
pieces. -/
theorem linePieces_append_newline
    {s : List Char}
    (h : s.getLast? ≠ some '\r') (t : List Char) :
    linePieces (s ++ '\n' :: t) = linePieces s ++ linePieces t := by
  induction s using lineInduction with
  | last line hline =>
      rw [linePieces_line_newline hline, linePieces_line hline, withoutReturn, if_neg h]
      rfl
  | more line rest hline ih =>
      -- a carriage return at the end could only be that of the last line
      have hrest : rest.getLast? ≠ some '\r' := by
        intro hlast
        rw [getLast?_append_newline, hlast] at h
        exact h rfl
      rw [List.append_assoc, List.cons_append, linePieces_line_newline hline,
        linePieces_line_newline hline, ih hrest]
      rfl

/-- There is one piece more than there are line feeds. -/
theorem length_linePieces
    (s : List Char) :
    (linePieces s).length = s.count '\n' + 1 := by
  induction s using lineInduction with
  | last line hline =>
      rw [linePieces_line hline, List.count_eq_zero_of_not_mem hline]
      rfl
  | more line rest hline ih =>
      rw [linePieces_line_newline hline, List.length_cons, ih, List.count_append,
        List.count_eq_zero_of_not_mem hline, Nat.zero_add, List.count_cons_self]

/-- The pieces before a line feed do not depend on what follows it. -/
theorem exists_pieces_before
    (s : List Char) :
    ∃ before : List (List Char),
      before.length = s.count '\n' + 1 ∧
      ∀ t : List Char, linePieces (s ++ '\n' :: t) = before ++ linePieces t := by
  induction s using lineInduction with
  | last line hline =>
      refine ⟨[withoutReturn line], ?_, fun t => linePieces_line_newline hline t⟩
      simp [List.count_eq_zero_of_not_mem hline]
  | more line rest hline ih =>
      obtain ⟨before, hlength, hbefore⟩ := ih
      refine ⟨withoutReturn line :: before, ?_, fun t => ?_⟩
      · simp [List.count_eq_zero_of_not_mem hline, hlength]
      · rw [List.append_assoc, List.cons_append, linePieces_line_newline hline, hbefore]
        rfl

end TwoTexts

section Respelling

theorem respelled_line
    {line : List Char}
    (h : '\n' ∉ line) (ends : Nat → LineEnd) (rest : List Char) :
    respelled ends (line ++ rest) = line ++ respelled ends rest := by
  induction line with
  | nil =>
      rfl
  | cons c line ih =>
      rw [List.mem_cons, not_or] at h
      rw [List.cons_append, respelled, if_neg (Ne.symm h.1), ih h.2]
      rfl

/-- Where no carriage return stands before a line feed, line feeds may be written as line
ends of either kind. -/
theorem linePieces_respelled
    {s : List Char}
    (h : ¬ ['\r', '\n'] <:+: s) (ends : Nat → LineEnd) :
    linePieces (respelled ends s) = linePieces s := by
  induction s using lineInduction generalizing ends with
  | last line hline =>
      have hsame := respelled_line hline ends []
      simp only [List.append_nil, respelled] at hsame
      rw [hsame]
  | more line rest hline ih =>
      have hrest : ¬ ['\r', '\n'] <:+: rest := fun hpair =>
        h (hpair.trans ⟨line ++ ['\n'], [], by simp⟩)
      have hlast : line.getLast? ≠ some '\r' := by
        intro hlast
        obtain ⟨w, rfl⟩ := List.getLast?_eq_some_iff.mp hlast
        exact h ⟨w, rest, by simp⟩
      rw [respelled_line hline, respelled, if_pos rfl,
        linePieces_line_lineEnd hline hlast, ih hrest]
      exact (linePieces_line_lineEnd hline hlast .lf rest).symm

end Respelling

end Text
end HdlLint
