import HdlLint.Proofs.Diagnostic.LineAccount

/-!
# Well-formed diagnostics

Every diagnostic that is read from a line is well formed: its place counts from zero, it
comes from the linter, its code is the name of the linter or a code as the grammar has it,
and its message fits on a line.  A set is sound if it is grouped and holds only such
diagnostics.

* `wellFormed_located`: the diagnostic on a line that can be located.
* `sound_read`: the set read from a transcript.
* `Sound.without`: dropping a file.
* `Grouped.nonempty_iff`: the ways to tell whether something is there.
-/

namespace HdlLint

open DiagnosticLine

/-- What is true of a diagnostic of the linter. -/
structure Diagnostic.WellFormed (d : Diagnostic) : Prop where
  line_nonneg : 0 ≤ d.line
  column_nonneg : 0 ≤ d.column
  source_eq : d.source = linterName
  code_spelled : d.code = linterName ∨ IsRun isCodeChar d.code.toList
  message_ne : d.message ≠ ""
  message_oneLine : '\n' ∉ d.message.toList

section Lines

variable {line : String} {f : LineFields}

/-- A message is not empty and ends before the next line feed. -/
theorem DiagnosticLine.IsMessage.visible
    {remainder message : List Char}
    (h : IsMessage remainder message) :
    message ≠ [] ∧ '\n' ∉ message := by
  by_cases hblank : ∀ c ∈ remainder, Text.isAsciiBlank c = true
  · obtain ⟨before, after, c, -, hc, -, rfl⟩ := h.2 hblank
    exact ⟨List.cons_ne_nil c [], by simpa using Ne.symm hc⟩
  · push Not at hblank
    obtain ⟨c, hc, hvisible⟩ := hblank
    obtain rfl := h.1 ⟨c, hc, by simpa using hvisible⟩
    refine ⟨?_, fun hmem => absurd (List.mem_takeWhile_imp hmem) (by simp)⟩
    have hne : remainder.dropWhile Text.isAsciiBlank ≠ [] := by
      rw [Ne, List.dropWhile_eq_nil_iff]
      exact fun hall => hvisible (hall c hc)
    obtain ⟨d, rest, hrest⟩ := List.exists_cons_of_ne_nil hne
    -- the first character that is no blank is no line feed either
    have hd : Text.isAsciiBlank d = false :=
      Text.head?_dropWhile (s := remainder) (by rw [hrest]; rfl)
    have hnewline : d ≠ '\n' := by
      rintro rfl
      rw [isAsciiBlank_newline] at hd
      cases hd
    simp [hrest, hnewline]

theorem codeName_spelled
    (h : parseLine line = .matched f) :
    f.codeName = linterName ∨ IsRun isCodeChar f.codeName.toList := by
  obtain ⟨_, _, _, _, _, -, hreading⟩ := exists_reading_of_matched h
  unfold LineFields.codeName
  cases hcode : f.code with
  | none =>
      exact Or.inl rfl
  | some code =>
      by_cases hempty : code = ""
      · exact Or.inl (if_pos hempty)
      · refine Or.inr ?_
        simp only [if_neg hempty]
        refine ⟨by simpa using hempty, ?_⟩
        intro c hc
        rw [hreading.code_whole code hcode] at hc
        exact List.mem_takeWhile_imp hc

theorem column_nonneg
    (f : LineFields) :
    0 ≤ f.column := by
  unfold LineFields.column
  split
  · split <;> omega
  · exact le_refl 0

/-- A diagnostic line that can be located gives a well-formed diagnostic. -/
theorem wellFormed_located
    (h : parseLine line = .matched f)
    (hlocatable : f.Locatable) (scope : PathScope) :
    (f.located scope).WellFormed where
  line_nonneg := by
    have hline := hlocatable.2.2
    simp only [LineFields.located]
    omega
  column_nonneg := column_nonneg f
  source_eq := rfl
  code_spelled := codeName_spelled h
  message_ne := by
    obtain ⟨_, _, _, _, _, -, hreading⟩ := exists_reading_of_matched h
    simpa [LineFields.located] using hreading.message.visible.1
  message_oneLine := by
    obtain ⟨_, _, _, _, _, -, hreading⟩ := exists_reading_of_matched h
    exact hreading.message.visible.2

end Lines

namespace DiagnosticSet

/-- A grouped set of well-formed diagnostics. -/
structure Sound (s : DiagnosticSet) : Prop where
  grouped : s.Grouped
  wellFormed : ∀ d ∈ s.toList, d.WellFormed

theorem sound_empty : empty.Sound where
  grouped := grouped_empty
  wellFormed := by simp [empty, toList]

/-- What is read from a transcript is sound, whatever the transcript is. -/
theorem sound_read
    (scope : PathScope) (transcript : String) :
    (Transcript.read scope transcript).1.Sound := by
  rw [read_eq]
  refine ⟨grouped_ofList _, ?_⟩
  intro d hd
  obtain ⟨line, -, f, hparsed, hlocatable, rfl⟩ :=
    mem_locatedDiagnostics_iff.mp ((mem_toList_ofList _).mp hd)
  exact wellFormed_located hparsed hlocatable scope

section Content

variable {s : DiagnosticSet}

theorem Sound.without
    (h : s.Sound) (file : String) :
    (s.without file).Sound := by
  refine ⟨grouped_ofList _, ?_⟩
  intro d hd
  have hmem := (mem_toList_ofList _).mp hd
  obtain ⟨g, hg, hdg⟩ := List.mem_flatMap.mp hmem
  exact h.wellFormed d (List.mem_flatMap.mpr ⟨g, List.mem_of_mem_filter hg, hdg⟩)

/-- A grouped set has a file exactly if it has a diagnostic. -/
theorem Grouped.nonempty_iff
    (h : s.Grouped) :
    (s.isNonempty = true ↔ 0 < s.size) ∧ (s.isNonempty = true ↔ s.files ≠ []) := by
  obtain ⟨groups⟩ := s
  cases groups with
  | nil =>
      simp [isNonempty, size, toList, files]
  | cons g rest =>
      have hg : g.2 ≠ [] := h.group_nonempty g List.mem_cons_self
      have hnonempty : isNonempty ⟨g :: rest⟩ = true := by
        simp [isNonempty, hg]
      have hsize : 0 < size ⟨g :: rest⟩ := by
        have hlength : 0 < g.2.length := List.length_pos_iff.mpr hg
        simp only [size, toList, List.flatMap_cons, List.length_append]
        omega
      exact ⟨iff_of_true hnonempty hsize, iff_of_true hnonempty (List.cons_ne_nil _ _)⟩

end Content

end DiagnosticSet
end HdlLint
