import HdlLint.Proofs.Diagnostic.FileGroups
import HdlLint.Proofs.Session.RunStages
import HdlLint.Proofs.Session.Steps
import HdlLint.Proofs.Store.ChangeOrder

/-!
# Linting always gives a result

A document that is linted while no listener fails gives a result.  It is an error exactly
if a stage of the run fails, and then nothing is published; otherwise what the linter
wrote is published as it is returned.

* `ReportsFault` and `ReportsOutput`: the two forms of a result.
* `lint_result`: for every document, all settings and everything that the linter and the
  translation of paths may do.
-/

namespace HdlLint
namespace LintRequest

section Results

variable {r : LintRequest} {child : ChildBehavior} {i : Invocation} {f : LintFault}

/-- A stage of the run fails. -/
def Fails (r : LintRequest) (child : ChildBehavior) : Prop :=
  (∃ f : LintFault, r.BuildFails f) ∨
  ∃ (i : Invocation) (f : LintFault), r.built = .ok i ∧ r.RunFails child i f

/-- A result that shows nothing but the fault in which a stage of the run ended. -/
structure ReportsFault (r : LintRequest) (child : ChildBehavior) (result : LintResult) :
    Prop where
  diagnostics_eq : result.diagnostics = .empty
  code_eq : result.code = none
  detail_eq :
    ∃ f : LintFault,
      result.errorDetail = some f.fault.text ∧
      (r.BuildFails f ∨
        ∃ i : Invocation, result.invocation = some i ∧
          r.built = .ok i ∧ r.RunFails child i f)

/-- A result that shows what the linter wrote and the code with which it ended, whatever
that is. -/
structure ReportsOutput (r : LintRequest) (child : ChildBehavior) (result : LintResult) :
    Prop where
  status_eq : result.status = if result.diagnostics.isNonempty then .dirty else .clean
  detail_eq : result.errorDetail = none
  output_eq :
    ∃ (i : Invocation) (output errors : List UInt8) (code : Option Int),
      child = .ends output errors code ∧
      r.built = .ok i ∧ result.invocation = some i ∧
      result.diagnostics = (Transcript.read r.scope (Text.Utf8.decodeLossy errors)).1 ∧
      result.code = some (code.getD LinterRun.unknownCode)

theorem not_buildFails_of_built
    (h : r.built = .ok i) :
    ¬ ∃ f : LintFault, r.BuildFails f := by
  rintro ⟨f, hfails⟩
  cases h.symm.trans hfails.built_eq

theorem not_fails_of_ends
    {output errors : List UInt8} {code : Option Int}
    (hbuilt : r.built = .ok i)
    (hlimit : LinterRun.limitStrikesAtOnce r.limit = false) :
    ¬ r.Fails (.ends output errors code) := by
  rintro (hfails | ⟨i', f, -, hfails⟩)
  · exact not_buildFails_of_built hbuilt hfails
  · cases hfails with
    | refused hchild =>
        cases hchild
    | argument hchild =>
        cases hchild
    | timesOut hchild =>
        cases hchild
    | atOnce hchild hstrikes =>
        cases hlimit.symm.trans hstrikes

theorem reportsFault_of_buildFails
    (h : r.BuildFails f) (child : ChildBehavior) :
    r.ReportsFault child (faulted none f) :=
  ⟨rfl, rfl, f, rfl, Or.inl h⟩

theorem reportsFault_of_runFails
    (hbuilt : r.built = .ok i)
    (h : r.RunFails child i f) :
    r.ReportsFault child (faulted (some i) f) :=
  ⟨rfl, rfl, f, rfl, Or.inr ⟨i, rfl, hbuilt, h⟩⟩

theorem reportsOutput_collected
    (hbuilt : r.built = .ok i) (output errors : List UInt8) (code : Option Int) :
    r.ReportsOutput (.ends output errors code)
      (r.collected i (outputOf output errors code)) where
  status_eq := by
    unfold collected
    split <;> rfl
  detail_eq := by simp only [collected]
  output_eq := by
    refine ⟨i, output, errors, code, rfl, hbuilt, ?_, ?_, ?_⟩ <;>
      simp only [collected, outputOf]

theorem ReportsOutput.status_ne
    {result : LintResult}
    (h : r.ReportsOutput child result) :
    result.status ≠ .error := by
  rw [h.status_eq]
  split <;> simp

end Results

end LintRequest

namespace DiagnosticStore

/-- A listener that deletes a file goes two changes deep: the file is gone when it is told
of its own change. -/
theorem crash_publishWithin_deleter
    (depth : Nat) (content : DiagnosticSet) (name other path : String)
    (ds : List Diagnostic) :
    (publishWithin (depth + 2) ⟨content, [deleter name path, viewer other]⟩
      (.replace (.ofList ds))).crash = none := by
  have hrest : (DiagnosticSet.without (.ofList ds) path).contains path = false := by
    rw [(DiagnosticSet.grouped_ofList ds).without_eq]
    exact DiagnosticSet.contains_dropFiles_self _ path
  cases hcontains : (DiagnosticSet.ofList ds).contains path <;>
    simp [publishWithin, announce, carryOut, deleter, viewer,
      Change.apply, hcontains, hrest]

theorem neverFails_deleter
    (content : DiagnosticSet) (name other path : String) :
    NeverFails ⟨content, [deleter name path, viewer other]⟩ where
  listeners := by
    intro l hl content' crash hcrash
    have honly : l.OnlyPublishes := by
      rcases List.mem_cons.mp hl with rfl | hl
      · exact onlyPublishes_deleter name path
      · obtain rfl := List.mem_singleton.mp hl
        exact onlyPublishes_viewer other
    obtain ⟨c, hc⟩ := honly content' _ hcrash
    cases hc
  not_tooDeep := by
    intro ds
    have hnone := crash_publishWithin_deleter 248 content name other path ds
    rw [publish, maxDepth, hnone]
    simp

end DiagnosticStore

namespace Session

open LintRequest

section LintResult

variable {s : Session} {document : Document} {child : ChildBehavior}

/-- Let no listener fail, and let the translation of paths and the launch of the linter
fail only in foreseen ways.  Then linting a document gives a result.  It reports a fault
exactly if a stage of the run fails, and then the session is as it was and no listener was
called; otherwise it reports the output of the linter, and the store has been given
exactly its diagnostics. -/
theorem lint_result
    (hlisteners : s.store.NeverFails)
    (htranslator : s.translator.NeverCrashes)
    (hchild : child.Foreseen) :
    let r := s.request document
    let ran := s.lint document child
    ∃ result : LintResult,
      ran.1 = .finished result ∧
      (result.status = .error ↔ r.Fails child) ∧
      (result.invocation = none ↔ ∃ f : LintFault, r.BuildFails f) ∧
      (result.invocation = none → ran.2.2.actions = []) ∧
      (∀ i ∈ result.invocation, ran.2.2.actions.head? = some (.launch i.argv i.folder)) ∧
      (result.status = .error →
        r.ReportsFault child result ∧ ran.2.1 = s ∧ ran.2.2.notices = []) ∧
      (result.status ≠ .error →
        r.ReportsOutput child result ∧
        ran.2.1 = { s with store :=
          (s.store.publish (.replace result.diagnostics)).store } ∧
        ran.2.2.notices = (s.store.publish (.replace result.diagnostics)).notices ∧
        ((∀ l ∈ s.store.listeners, l.MakesNoChange) →
          ran.2.1.store.current = result.diagnostics)) := by
  intro r ran
  have hsession : ran.2.1 = { s with store := (r.run child s.store).2.1 } :=
    rfl
  rcases r.run_cases child s.store with
    ⟨stop, hbuilt, hend, hstore, hnotices, hactions⟩ |
    ⟨i, stop, hbuilt, hawaited, hend, hstore, hnotices, hlaunches⟩ |
    ⟨i, output, hbuilt, hawaited, hend, hstore, hnotices, hlaunches⟩
  · -- the invocation cannot be built
    obtain ⟨f, rfl, hfails⟩ := buildFails_of_built htranslator hbuilt
    rw [hstore] at hsession
    refine ⟨faulted none f, hend, ?_, ?_,
      fun _ => hactions, by simp [faulted], ?_, fun hne => absurd rfl hne⟩
    · exact iff_of_true rfl (Or.inl ⟨f, hfails⟩)
    · exact iff_of_true rfl ⟨f, hfails⟩
    · exact fun _ => ⟨reportsFault_of_buildFails hfails child, hsession, hnotices⟩
  · -- the linter cannot be run to its end
    obtain ⟨f, rfl, hfails⟩ := runFails_of_awaited hchild hawaited
    rw [hstore] at hsession
    have hinvocation : (faulted (some i) f).invocation ≠ none := by
      simp [faulted]
    refine ⟨faulted (some i) f, hend, ?_, ?_,
      fun hnone => absurd hnone hinvocation, ?_, ?_,
      fun hne => absurd rfl hne⟩
    · exact iff_of_true rfl (Or.inr ⟨i, f, hbuilt, hfails⟩)
    · exact iff_of_false hinvocation (not_buildFails_of_built hbuilt)
    · rintro _ ⟨⟩
      exact hlaunches
    · exact fun _ => ⟨reportsFault_of_runFails hbuilt hfails, hsession, hnotices⟩
  · -- the output of the linter is read and published
    obtain ⟨output, errors, code, rfl, hlimit, rfl⟩ := ends_of_awaited hawaited
    let result := r.collected i (outputOf output errors code)
    obtain ⟨hcollected, hpublished, htold⟩ :=
      r.collect_eq i (outputOf output errors code) s.store
    rw [crash_publish_collected hlisteners] at hcollected
    rw [hstore, hpublished] at hsession
    have hreports : r.ReportsOutput (.ends output errors code) result :=
      reportsOutput_collected hbuilt output errors code
    have hinvocation : result.invocation ≠ none := by
      simp [result, collected]
    refine ⟨result, hend.trans hcollected, ?_, ?_,
      fun hnone => absurd hnone hinvocation, ?_,
      fun herror => absurd herror hreports.status_ne, ?_⟩
    · exact iff_of_false hreports.status_ne (not_fails_of_ends hbuilt hlimit)
    · exact iff_of_false hinvocation (not_buildFails_of_built hbuilt)
    · rintro _ ⟨⟩
      exact hlaunches
    · refine fun _ => ⟨hreports, hsession, hnotices.trans htold, fun hnochange => ?_⟩
      rw [hsession]
      exact DiagnosticStore.current_publish_of_makesNoChange hnochange _

/-- A listener deletes the file that was linted as soon as it is told of its
diagnostics. -/
theorem lint_result_deleter :
    let s : Session :=
      ⟨⟨.empty, [DiagnosticStore.deleter "A" "/w/a.v", DiagnosticStore.viewer "B"]⟩,
        {}, some "/w", .host, .function .ok, []⟩
    let document : Document := ⟨"/w/a.v", plainLanguage⟩
    let child : ChildBehavior := .ends [] "%Error: a.v:1:2: m".toUTF8.toList (some 1)
    (s.store.NeverFails ∧ s.translator.NeverCrashes ∧ child.Foreseen) ∧
    ∃ result : LintResult,
      (s.lint document child).1 = .finished result ∧
      (s.request document).ReportsOutput child result ∧
      (s.lint document child).2.1.store =
        (s.store.publish (.replace result.diagnostics)).store := by
  intro s document child
  have hlisteners : s.store.NeverFails :=
    DiagnosticStore.neverFails_deleter .empty "A" "B" "/w/a.v"
  have htranslator : s.translator.NeverCrashes := by
    intro path crash h
    cases h
  have hchild : child.Foreseen := by
    simp [child, ChildBehavior.Foreseen]
  obtain ⟨result, hend, -, -, -, -, -, hpublished⟩ :=
    lint_result hlisteners htranslator hchild
  have hfound : (s.lint document child).1.found?.isSome = true := by
    decide +kernel
  have hstatus : result.status ≠ .error := by
    intro herror
    rw [hend, RunEnd.found?, if_pos herror] at hfound
    cases hfound
  obtain ⟨hreports, hsession, -, -⟩ := hpublished hstatus
  refine ⟨⟨hlisteners, htranslator, hchild⟩, result, hend, hreports, ?_⟩
  rw [hsession]

end LintResult
end Session
end HdlLint
