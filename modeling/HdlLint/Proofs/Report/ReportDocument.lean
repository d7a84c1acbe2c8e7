import HdlLint.Proofs.Diagnostic.LocatedNumbers
import HdlLint.Proofs.Diagnostic.GroupedSet
import HdlLint.Proofs.Value.JsonRoundTrip
import HdlLint.Report.Result

/-!
# Reports as documents

The result of a run is reported as a JSON text.  `LintReport` is what such a report tells:
how the run went, the command and code of the linter, what went wrong, and the
diagnostics, each of them with its range to the end of the line.  `LintReport.read?` reads
a report from a text; it finds all of this again, whatever texts stand in the result.

* `Diagnostic.ofValue?_toValue`, `DiagnosticSet.ofValue?_toValue`: diagnostics are found
  again in their values.
* `exists_reads_toValue`: a result is written so that it can be read.
* `LintReport.read?_toJsonLines`: the report of a result.
-/

namespace HdlLint

open Value.Json (IsPlain FewDigits)

namespace Value

/-- The integer of a value that is one. -/
def int? : Value → Option Int
  | int i => some i
  | _ => none

/-- What a value may hold, if nothing stands for the lack of it. -/
def optional? {α : Type} (f : Value → Option α) : Value → Option (Option α)
  | null => some none
  | v => (f v).map some

end Value

/-- The line and the column of a place. -/
def placeOf? (v : Value) : Option (Int × Int) := do
  let line ← (← v.field? "line").int?
  let column ← (← v.field? "column").int?
  pure (line, column)

/-- The diagnostic that a value describes, if its range runs to the end of the line. -/
def Diagnostic.ofValue? (v : Value) : Option Diagnostic := do
  let path ← (← v.field? "path").text?
  let severity ← Severity.ofName? (← (← v.field? "severity").text?)
  let code ← (← v.field? "code").text?
  let source ← (← v.field? "source").text?
  let message ← (← v.field? "message").text?
  let range ← v.field? "range"
  let (line, column) ← placeOf? (← range.field? "start")
  let stop ← placeOf? (← range.field? "end")
  if stop = (line, endOfLine) then
    pure ⟨path, line, column, message, code, severity, source⟩
  else none

namespace DiagnosticSet

def groupOf? : Value × Value → Option (String × List Diagnostic)
  | (.text file, .list vs) => (vs.mapM Diagnostic.ofValue?).map (file, ·)
  | _ => none

/-- The set that a map of files describes, the files in their order. -/
def ofValue? : Value → Option DiagnosticSet
  | .map entries => (entries.mapM groupOf?).map DiagnosticSet.mk
  | _ => none

end DiagnosticSet

/-- What is reported of a run. -/
structure LintReport where
  status : RunStatus
  command : Option String
  code : Option Int
  error : Option String
  diagnostics : DiagnosticSet

def RunStatus.ofName? : String → Option RunStatus
  | "clean" => some clean
  | "dirty" => some dirty
  | "error" => some error
  | _ => none

namespace LintReport

def ofValue? (v : Value) : Option LintReport := do
  let status ← RunStatus.ofName? (← (← v.field? "status").text?)
  let command ← (← v.field? "command").optional? Value.text?
  let code ← (← v.field? "returncode").optional? Value.int?
  let error ← (← v.field? "error").optional? Value.text?
  let diagnostics ← DiagnosticSet.ofValue? (← v.field? "diagnostics")
  pure ⟨status, command, code, error, diagnostics⟩

/-- The report that a text is as a whole. -/
def read? (text : String) : Option LintReport :=
  (Value.ofJson? text).bind ofValue?

end LintReport

/-- What is to be reported of a result. -/
def LintResult.report (r : LintResult) : LintReport :=
  ⟨r.status, r.invocation.map Invocation.command, r.code, r.errorDetail, r.diagnostics⟩

section Diagnostics

/-- A diagnostic is found again in its value. -/
theorem Diagnostic.ofValue?_toValue
    (d : Diagnostic) :
    Diagnostic.ofValue? d.toValue = some d := by
  obtain ⟨path, line, column, message, code, severity, source⟩ := d
  cases severity <;>
    simp [Diagnostic.ofValue?, Diagnostic.toValue, placeValue, placeOf?, Value.field?,
      Value.unfold, Value.lookup?,
      Value.sameKey, Value.text?, Value.int?, Severity.name, Severity.ofName?,
        Diagnostic.endLine, Diagnostic.endColumn]

theorem mapM_eq_some
    {α β : Type} {f : β → Option α} {g : α → β}
    (h : ∀ x : α, f (g x) = some x) (xs : List α) :
    (xs.map g).mapM f = some xs := by
  induction xs with
  | nil => rfl
  | cons x xs ih => simp [h, ih]

theorem DiagnosticSet.ofValue?_toValue
    (s : DiagnosticSet) :
    DiagnosticSet.ofValue? s.toValue = some s := by
  have hgroup : ∀ g : String × List Diagnostic,
      groupOf? (.text g.1, .list (g.2.map Diagnostic.toValue)) = some g := by
    rintro ⟨file, ds⟩
    simp [groupOf?, mapM_eq_some Diagnostic.ofValue?_toValue]
  rw [toValue, ofValue?, mapM_eq_some hgroup]
  rfl

/-- The lines and columns of all diagnostics of a set can be written. -/
def DiagnosticSet.HasFewDigits (s : DiagnosticSet) : Prop :=
  ∀ d ∈ s.toList, FewDigits d.line ∧ FewDigits d.column

theorem fewDigits_endOfLine :
    FewDigits endOfLine := by
  have hlength : (Nat.toDigits 10 9223372036854775807).length = 19 := by decide
  have hvalue : endOfLine.natAbs = 9223372036854775807 := rfl
  rw [FewDigits, hvalue, hlength]
  decide

theorem Diagnostic.isPlain_toValue
    {d : Diagnostic}
    (h : FewDigits d.line ∧ FewDigits d.column) :
    IsPlain d.toValue := by
  have hstart : IsPlain (placeValue d.line d.column) :=
    ⟨⟨⟨_, rfl⟩, h.1, ⟨_, rfl⟩, h.2, trivial⟩, by simp [Value.textKeys, Value.text?]⟩
  have hend : IsPlain (placeValue d.endLine d.endColumn) :=
    ⟨⟨⟨_, rfl⟩, h.1, ⟨_, rfl⟩, fewDigits_endOfLine,
      trivial⟩, by simp [Value.textKeys, Value.text?]⟩
  have hrange :
      IsPlain (.map [(.text "start", placeValue d.line d.column),
        (.text "end", placeValue d.endLine d.endColumn)]) :=
    ⟨⟨⟨_, rfl⟩, hstart, ⟨_, rfl⟩, hend, trivial⟩, by simp [Value.textKeys, Value.text?]⟩
  exact ⟨⟨⟨_, rfl⟩, trivial, ⟨_, rfl⟩, trivial, ⟨_, rfl⟩, trivial, ⟨_, rfl⟩, trivial,
    ⟨_, rfl⟩, trivial, ⟨_, rfl⟩, hrange,
    trivial⟩, by simp [Value.textKeys, Value.text?]⟩

theorem arePlain_iff
    {xs : List Value} :
    Value.Json.ArePlain xs ↔ ∀ x ∈ xs, IsPlain x := by
  induction xs with
  | nil => simp [Value.Json.ArePlain]
  | cons x xs ih => rw [Value.Json.ArePlain, ih, List.forall_mem_cons]

theorem DiagnosticSet.isPlain_toValue
    {s : DiagnosticSet}
    (h : s.HasFewDigits)
    (hfiles : s.files.Nodup) :
    IsPlain s.toValue := by
  refine ⟨Value.Json.arePlainEntries_iff.mpr fun e he => ?_, ?_⟩
  · obtain ⟨g, hg, rfl⟩ := List.mem_map.mp he
    refine ⟨⟨g.1, rfl⟩, arePlain_iff.mpr fun v hv => ?_⟩
    obtain ⟨d, hd, rfl⟩ := List.mem_map.mp hv
    exact Diagnostic.isPlain_toValue (h d (List.mem_flatMap.mpr ⟨g, hg, hd⟩))
  · have hkeys :
        Value.textKeys (s.groups.map fun g =>
          (Value.text g.1, Value.list (g.2.map Diagnostic.toValue))) = s.files := by
      have hkey : ((fun e : Value × Value => e.1.text?) ∘
          fun g : String × List Diagnostic =>
            (Value.text g.1, Value.list (g.2.map Diagnostic.toValue))) =
            some ∘ Prod.fst := rfl
      rw [Value.textKeys, List.filterMap_map, hkey, List.filterMap_eq_map, files]
    exact hkeys ▸ hfiles

end Diagnostics

namespace LintResult

section Documents

variable {r : LintResult}

/-- The value of a result with a number in place of the time that the run has taken. -/
def valueWith (r : LintResult) (duration : Binary64) : Value :=
  .map [(.text "status", .text r.status.name),
    (.text "command", .ofText? (r.invocation.map Invocation.command)),
    (.text "returncode", .ofInt? r.code), (.text "error", .ofText? r.errorDetail),
    (.text "duration_seconds", .real duration),
      (.text "diagnostics", r.diagnostics.toValue)]

/-- A result can be written if its numbers have few digits and its files have one group
each. -/
structure IsWritable (r : LintResult) : Prop where
  code : ∀ code ∈ r.code, FewDigits code
  places : r.diagnostics.HasFewDigits
  files_nodup : r.diagnostics.files.Nodup

theorem readsEntry_write
    {v : Value}
    (h : IsPlain v) (key : String) :
    Value.Json.ReadsEntry (Value.Json.quote (Value.Json.keyText (.text key)) ++ ": " ++
      Value.Json.write Value.Json.manyLines 1 v)
      (.text key, v) :=
  ⟨key, _, v, rfl, rfl, Value.Json.reads_write Value.Json.manyLines_isSound v 1 h⟩

theorem isPlain_ofText?
    (text : Option String) :
    IsPlain (.ofText? text) := by
  cases text <;> exact trivial

/-- What is written for a result is read as its value, but for the time that the run has
taken. -/
theorem exists_reads_toValue
    (h : r.IsWritable) (seconds : Binary64) :
    ∃ duration : Binary64,
      Value.Json.Reads (r.toValue seconds).toJsonLines (r.valueWith duration) := by
  obtain ⟨duration, hduration⟩ :=
    Value.Json.exists_reads_real (seconds.roundPlaces durationPlaces)
  refine ⟨duration, ?_⟩
  have hcode : IsPlain (.ofInt? r.code) := by
    cases hcode : r.code with
    | none => exact trivial
    | some code => exact h.code code hcode
  have hentries := Value.Json.reads_map Value.Json.manyLines_isSound
    (.cons (readsEntry_write (v := .text r.status.name) trivial "status") <|
      .cons (readsEntry_write
        (isPlain_ofText? (r.invocation.map Invocation.command)) "command") <|
      .cons (readsEntry_write hcode "returncode") <|
      .cons (readsEntry_write (isPlain_ofText? r.errorDetail) "error") <|
      .cons ⟨"duration_seconds", _, .real duration, rfl, rfl, hduration⟩ <|
      .cons (readsEntry_write (DiagnosticSet.isPlain_toValue h.places h.files_nodup)
        "diagnostics") .nil) 0
  rw [Value.ofEntries_of_nodup (by simp [Value.textKeys, Value.text?])
    (by simp)] at hentries
  exact hentries

theorem optional?_ofText?
    (text : Option String) :
    (Value.ofText? text).optional? Value.text? = some text := by
  cases text <;> rfl

theorem optional?_ofInt?
    (i : Option Int) :
    (Value.ofInt? i).optional? Value.int? = some i := by
  cases i <;> rfl

theorem ofName?_name
    (status : RunStatus) :
    RunStatus.ofName? status.name = some status := by
  cases status <;> rfl

theorem ofValue?_valueWith
    (r : LintResult) (duration : Binary64) :
    LintReport.ofValue? (r.valueWith duration) = some r.report := by
  have hstatus : (r.valueWith duration).field? "status" =
      some (.text r.status.name) := rfl
  have hcommand : (r.valueWith duration).field? "command" =
      some (.ofText? (r.invocation.map Invocation.command)) := rfl
  have hcode : (r.valueWith duration).field? "returncode" = some (.ofInt? r.code) := rfl
  have herror : (r.valueWith duration).field? "error" =
      some (.ofText? r.errorDetail) := rfl
  have hdiagnostics : (r.valueWith duration).field? "diagnostics" =
      some r.diagnostics.toValue := rfl
  simp only [LintReport.ofValue?, hstatus, hcommand, hcode, herror, hdiagnostics,
    Value.text?, Option.bind_eq_bind,
    Option.bind_some, ofName?_name, optional?_ofText?, optional?_ofInt?,
      DiagnosticSet.ofValue?_toValue]
  rfl

/-- The text that is printed for a result is its report. -/
theorem read?_toJsonLines
    (h : r.IsWritable) (seconds : Binary64) :
    LintReport.read? ((r.toValue seconds).toJsonLines ++ "\n") = some r.report := by
  obtain ⟨duration, hreads⟩ := exists_reads_toValue h seconds
  have hbehind : ∀ c ∈ "\n".toList, Value.Json.isGap c = true := by
    simp [Value.Json.isGap]
  rw [LintReport.read?, hreads.ofJson? hbehind, Option.bind_some, ofValue?_valueWith]

end Documents

end LintResult

end HdlLint
