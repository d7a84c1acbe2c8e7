import HdlLint.Diagnostic.Transcript
import HdlLint.Proofs.Diagnostic.EncounterOrder
import HdlLint.Proofs.Diagnostic.LeftmostLine
import HdlLint.Proofs.Text.DecimalLiteral
import HdlLint.Proofs.Text.LineSegments

/-!
# What becomes of every line

Reading a transcript accounts for every line once.  A line is of one of four kinds:

* a blank line, of which nothing is said;
* a line that is neither blank nor a diagnostic line, which is reported as it stands;
* a diagnostic line whose line number is none or is too long, which is dropped in silence;
* a diagnostic line that can be located, which is logged and becomes a diagnostic.

`LineKind.ofLine` tells the kinds apart without the functions that read a transcript;
`readLine_eq` says that these agree with it, and `read_accounts_for_lines` what follows
for a whole transcript.
-/

namespace HdlLint

open DiagnosticLine

namespace LineFields

/-- The number that the digits of the line denote. -/
def lineNumber (f : LineFields) : Nat :=
  Nat.ofDigitChars 10 f.lineText.toList 0

/-- The line number is a decimal number that is not too long and counts from one. -/
def Locatable (f : LineFields) : Prop :=
  IsRun Text.isAsciiDigit f.lineText.toList ∧ f.lineText.length ≤ Text.maxDigits ∧
    1 ≤ f.lineNumber

instance (f : LineFields) : Decidable f.Locatable :=
  inferInstanceAs (Decidable (_ ∧ _ ∧ _))

/-- The diagnostic on a line that can be located. -/
def located (f : LineFields) (scope : PathScope) : Diagnostic where
  path := scope.resolve f.path
  line := (f.lineNumber : Int) - 1
  column := f.column
  message := f.message
  code := f.codeName
  severity := .ofKeyword f.keyword
  source := linterName

end LineFields

/-- The kinds of lines. -/
inductive LineKind where
  | blank
  | noDiagnostic
  | unlocatable
  | located (d : Diagnostic)

namespace LineKind

def ofLine (scope : PathScope) (line : String) : LineKind :=
  match parseLine line with
  | .matched f => if f.Locatable then .located (f.located scope) else .unlocatable
  | .unmatched _ => if Text.isBlankText line then .blank else .noDiagnostic

def diagnostic? : LineKind → Option Diagnostic
  | located d => some d
  | _ => none

/-- What is logged about a line. -/
def event? (line : String) : LineKind → Option Event
  | blank => none
  | noDiagnostic => some ⟨.warning, "failed to parse error", [("line", .text line)]⟩
  | unlocatable => none
  | located d => some ⟨.debug, "diagnostic parsed",
      [("severity", .text d.severity.name), ("path", .text d.path), ("line", .int d.line),
        ("code", .text d.code)]⟩

end LineKind

section OneLine

variable {line : String} {f : LineFields}

theorem parseLine_eq_matched_iff :
    parseLine line = .matched f ↔ search? line.toList = some f := by
  unfold parseLine
  cases search? line.toList <;> simp

theorem eq_of_parseLine_eq_unmatched
    {text : String}
    (h : parseLine line = .unmatched text) :
    text = line := by
  unfold parseLine at h
  cases hsearch : search? line.toList with
  | some f =>
      rw [hsearch] at h
      cases h
  | none =>
      rw [hsearch] at h
      exact (ParsedLine.unmatched.inj h).symm

/-- The fields of a diagnostic line are read from some percent sign on. -/
theorem exists_reading_of_matched
    (h : parseLine line = .matched f) :
    ∃ pre r gap tail remainder : List Char,
      line.toList = pre ++ '%' :: r ∧ IsReading ('%' :: r) f gap tail remainder := by
  obtain ⟨pre, r, hline, hfields, -⟩ := search?_eq_some (parseLine_eq_matched_iff.mp h)
  obtain ⟨gap, tail, remainder, hreading⟩ := isReading_of_fields? hfields
  exact ⟨pre, r, gap, tail, remainder, hline, hreading⟩

/-- A diagnostic line holds a percent sign, so that it is not blank. -/
theorem isBlankText_of_matched
    (h : parseLine line = .matched f) :
    Text.isBlankText line = false := by
  obtain ⟨pre, r, _, _, _, hline, -⟩ := exists_reading_of_matched h
  have hpercent : Text.isBlank '%' = false := by
    decide
  unfold Text.isBlankText
  rw [List.all_eq_false]
  exact ⟨'%', by simp [hline], by simp [hpercent]⟩

theorem isRun_lineText_of_matched
    (h : parseLine line = .matched f) :
    IsRun Text.isAsciiDigit f.lineText.toList := by
  obtain ⟨_, _, _, _, _, -, hreading⟩ := exists_reading_of_matched h
  exact hreading.line_run

/-- Digits give a diagnostic exactly if they locate the line. -/
theorem diagnostic?_of_isRun
    (hrun : IsRun Text.isAsciiDigit f.lineText.toList) (scope : PathScope) :
    f.diagnostic? scope = if f.Locatable then some (f.located scope) else none := by
  have hread :
      Text.integer? f.lineText =
        if Text.maxDigits < f.lineText.length then none
          else some (f.lineNumber : Int) := by
    have hdigits := Text.integer?_run hrun.1 hrun.2
    rwa [String.ofList_toList, String.length_toList] at hdigits
  unfold LineFields.diagnostic? LineFields.zeroBased?
  rw [hread]
  by_cases hlong : Text.maxDigits < f.lineText.length
  · have hnot : ¬ f.Locatable := fun h => Nat.not_lt.mpr h.2.1 hlong
    rw [if_pos hlong, if_neg hnot]
    rfl
  · rw [if_neg hlong]
    by_cases hzero : f.lineNumber = 0
    · have hnot : ¬ f.Locatable := fun h => Nat.one_le_iff_ne_zero.mp h.2.2 hzero
      rw [if_neg hnot, hzero]
      rfl
    · have hlocatable : f.Locatable :=
        ⟨hrun, Nat.not_lt.mp hlong, Nat.one_le_iff_ne_zero.mpr hzero⟩
      have hline : ¬ (f.lineNumber : Int) - 1 < 0 := by
        omega
      simp only [Option.map_some, if_neg hline, if_pos hlocatable]
      rfl

/-- What is read from a line depends on its kind. -/
theorem readLine_eq
    (scope : PathScope) (line : String) :
    Transcript.readLine scope line =
      ((LineKind.ofLine scope line).diagnostic?,
        ((LineKind.ofLine scope line).event? line).toList) := by
  unfold Transcript.readLine LineKind.ofLine
  cases hparsed : parseLine line with
  | unmatched text =>
      obtain rfl := eq_of_parseLine_eq_unmatched hparsed
      cases hblank : Text.isBlankText text <;> rfl
  | matched f =>
      rw [isBlankText_of_matched hparsed]
      simp only [diagnostic?_of_isRun (isRun_lineText_of_matched hparsed)]
      by_cases hlocatable : f.Locatable
      · simp only [if_pos hlocatable]
        rfl
      · simp only [if_neg hlocatable]
        rfl

theorem ofLine_eq_located_iff
    {scope : PathScope} {d : Diagnostic} :
    LineKind.ofLine scope line = .located d ↔
      ∃ f : LineFields, parseLine line = .matched f ∧ f.Locatable ∧
        d = f.located scope := by
  unfold LineKind.ofLine
  cases hparsed : parseLine line with
  | unmatched text =>
      cases hblank : Text.isBlankText line <;> simp
  | matched f =>
      by_cases hlocatable : f.Locatable <;> simp [hlocatable, eq_comm]

theorem severity_located_eq_error_iff
    {scope : PathScope} :
    (f.located scope).severity = .error ↔ "Error".toList <+: f.keyword.toList := by
  rw [← List.isPrefixOf_iff_prefix]
  unfold LineFields.located Severity.ofKeyword
  simp only
  split
  · simp_all
  · split <;> simp_all

end OneLine

section Transcripts

variable (scope : PathScope) (transcript : String)

/-- The diagnostics on the lines of a transcript that can be located, in the order of the
lines. -/
def locatedDiagnostics : List Diagnostic :=
  (Text.splitLines transcript).filterMap fun line =>
    (LineKind.ofLine scope line).diagnostic?

theorem read_eq :
    Transcript.read scope transcript =
      (.ofList (locatedDiagnostics scope transcript),
        (Text.splitLines transcript).filterMap fun line =>
          (LineKind.ofLine scope line).event? line) := by
  unfold Transcript.read locatedDiagnostics
  simp only [List.filterMap_map, List.flatMap_map, Function.comp_def, readLine_eq]
  rw [List.filterMap_eq_flatMap_toList
    (fun line => (LineKind.ofLine scope line).event? line)]

theorem mem_locatedDiagnostics_iff
    {scope : PathScope} {transcript : String} {d : Diagnostic} :
    d ∈ locatedDiagnostics scope transcript ↔
      ∃ line ∈ Text.splitLines transcript, ∃ f : LineFields,
        parseLine line = .matched f ∧ f.Locatable ∧ d = f.located scope := by
  unfold locatedDiagnostics
  rw [List.mem_filterMap]
  refine exists_congr fun line => and_congr_right fun _ => ?_
  rw [← ofLine_eq_located_iff]
  cases LineKind.ofLine scope line <;> simp [LineKind.diagnostic?]

/-- One diagnostic is logged for each line that can be located. -/
theorem length_filter_debug
    (lines : List String) :
    ((lines.filterMap fun line => (LineKind.ofLine scope line).event? line).filter
      fun e => e.level = .debug).length =
      (lines.filterMap fun line => (LineKind.ofLine scope line).diagnostic?).length := by
  induction lines with
  | nil =>
      rfl
  | cons line rest ih =>
      cases hkind : LineKind.ofLine scope line <;>
        simpa [List.filterMap_cons, hkind, LineKind.event?, LineKind.diagnostic?] using ih

/-- Reading a transcript logs one event for each line that is reported or located, in the
order of the lines, and nothing else.  The lines are what stands between line feeds,
without the carriage return of a line end.  The diagnostics found are those on the lines
that can be located: the files stand in the order in which they were first met, a file
shows its diagnostics in the order of the lines, and no diagnostic is lost or there
twice. -/
theorem read_accounts_for_lines :
    let lines := Text.segments transcript
    let located := lines.filterMap fun line => (LineKind.ofLine scope line).diagnostic?
    let found := (Transcript.read scope transcript).1
    let events := (Transcript.read scope transcript).2
    events = (lines.filterMap fun line => (LineKind.ofLine scope line).event? line) ∧
    found.files = (located.map (·.path)).eraseDups ∧
    (∀ path : String, found.get path = located.filter fun d => d.path = path) ∧
    found.size = (events.filter fun e => e.level = .debug).length ∧
    found.toList = found.files.flatMap found.get ∧
    (found.hasErrors = true ↔
      ∃ line ∈ lines, ∃ f : LineFields,
        parseLine line = .matched f ∧ f.Locatable ∧
          "Error".toList <+: f.keyword.toList) := by
  intro lines located found events
  have hlines : Text.splitLines transcript = lines :=
    Text.splitLines_eq_segments transcript
  have hlocated : locatedDiagnostics scope transcript = located := by
    rw [locatedDiagnostics, hlines]
  have hread := read_eq scope transcript
  rw [hlocated, hlines] at hread
  have hfound : found = .ofList located := congrArg Prod.fst hread
  have hevents : events = lines.filterMap fun line =>
      (LineKind.ofLine scope line).event? line :=
    congrArg Prod.snd hread
  refine ⟨hevents, ?_, ?_, ?_, ?_, ?_⟩
  · rw [hfound, DiagnosticSet.files_ofList]
  · intro path
    rw [hfound, DiagnosticSet.get_ofList]
  · rw [hfound, DiagnosticSet.size_ofList, hevents]
    exact (length_filter_debug scope lines).symm
  · rw [hfound]
    exact (DiagnosticSet.grouped_ofList located).toList_eq_flatMap_get
  · rw [hfound, DiagnosticSet.hasErrors_ofList]
    constructor
    · rintro ⟨d, hd, herror⟩
      obtain ⟨line, hline, f, hparsed, hlocatable, rfl⟩ :=
        mem_locatedDiagnostics_iff.mp (hlocated ▸ hd)
      rw [hlines] at hline
      exact ⟨line, hline, f, hparsed, hlocatable, severity_located_eq_error_iff.mp herror⟩
    · rintro ⟨line, hline, f, hparsed, hlocatable, hkeyword⟩
      refine ⟨f.located scope, ?_, severity_located_eq_error_iff.mpr hkeyword⟩
      rw [← hlines] at hline
      exact hlocated ▸ mem_locatedDiagnostics_iff.mpr ⟨line, hline, f,
        hparsed, hlocatable, rfl⟩

end Transcripts
end HdlLint
