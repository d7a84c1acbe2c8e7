import HdlLint.Proofs.Diagnostic.FileGroups
import HdlLint.Proofs.Invocation.ReturnedPath
import HdlLint.Session.Basic

/-!
# Closing a linted document

The linter reports a file by the path with which it was called.  What it reports about a
document is found again, and dropped when the document is closed, exactly if that path
comes back as the path of the document.

* `path_of_mem_reported`: the path under which reported diagnostics are stored.
* `closeDocument_after_lint`: the content after a run, and after the document was closed.
-/

namespace HdlLint

theorem RunEnd.finished_of_found?
    {how : RunEnd}
    (h : how.found?.isSome = true) :
    ∃ result : LintResult, how = .finished result ∧ result.status ≠ .error := by
  cases how with
  | finished result =>
      refine ⟨result, rfl, ?_⟩
      intro herror
      simp [found?, herror] at h
  | _ =>
      cases h

namespace LintRequest

section Reported

variable {r : LintRequest} {errors : List UInt8} {target : String} {d : Diagnostic}

/-- The diagnostics in what the linter wrote to its error stream, in order. -/
def reported (r : LintRequest) (errors : List UInt8) : List Diagnostic :=
  (Text.splitLines (Text.Utf8.decodeLossy errors)).filterMap fun line =>
    (Transcript.readLine r.scope line).1

/-- Every diagnostic line of the error stream reports the file by this path. -/
def ReportsOnly (errors : List UInt8) (target : String) : Prop :=
  ∀ line ∈ Text.splitLines (Text.Utf8.decodeLossy errors), ∀ fields : LineFields,
    parseLine line = .matched fields → fields.path = target

theorem diagnostics_collected
    (r : LintRequest) (i : Invocation) (output errors : List UInt8) (code : Option Int) :
    (r.collected i (outputOf output errors code)).diagnostics =
      .ofList (r.reported errors) := by
  simp only [collected, Transcript.read, outputOf, reported, List.filterMap_map]
  rfl

theorem path_of_diagnostic?
    {fields : LineFields} {scope : PathScope}
    (h : fields.diagnostic? scope = some d) :
    d.path = scope.resolve fields.path := by
  unfold LineFields.diagnostic? at h
  split at h
  · split at h
    · cases h
    · cases h
      rfl
  · cases h

theorem reportsOnly_of_all
    (h : (Text.splitLines (Text.Utf8.decodeLossy errors)).all (fun line =>
      match parseLine line with
      | .matched fields => fields.path = target
      | .unmatched _ => true) = true) :
    ReportsOnly errors target := by
  intro line hline fields hfields
  have hpath := List.all_eq_true.mp h line hline
  simpa [hfields] using hpath

/-- The diagnostics of lines that all report one path are stored under what that path
stands for. -/
theorem path_of_mem_reported
    (h : ReportsOnly errors target)
    (hd : d ∈ r.reported errors) :
    d.path = r.scope.resolve target := by
  obtain ⟨line, hline, hread⟩ := List.mem_filterMap.mp hd
  unfold Transcript.readLine at hread
  split at hread
  · cases hread
  · split at hread
    · cases hread
    · rename_i fields hfields
      rw [← h line hline fields hfields]
      split at hread
      · cases hread
      · rename_i hdiagnostic
        cases hread
        exact path_of_diagnostic? hdiagnostic

end Reported

end LintRequest

namespace Session

open LintRequest

section ClosedDocument

variable {s : Session} {document : Document}
  {output errors : List UInt8} {code : Option Int}
variable {result : LintResult} {i : Invocation}

theorem exists_invocation_of_lint
    {child : ChildBehavior}
    (hend : (s.lint document child).1 = .finished result)
    (hstatus : result.status ≠ .error) :
    ∃ i : Invocation,
      result.invocation = some i ∧
        (s.request document).written document.path = .ok i.targetPath := by
  obtain ⟨i, output, hbuilt, -, rfl, -⟩ :=
    (s.request document).published_of_finished hend hstatus
  exact ⟨i, rfl, written_of_built hbuilt⟩

/-- Let a run of a document with an absolute path give a result that is no error, let
every diagnostic line report the path with which the linter was called, and let no
listener change the store.  If that path comes back, the document is shown all diagnostics
of the run, and none is left when it is closed; otherwise it is shown none of them, and
all are left. -/
theorem closeDocument_after_lint
    (hlisteners : ∀ l ∈ s.store.listeners, l.MakesNoChange)
    (habsolute : s.platform.isAbsolute document.path = true)
    (hend : (s.lint document (.ends output errors code)).1 = .finished result)
    (hstatus : result.status ≠ .error)
    (hinvocation : result.invocation = some i)
    (hreports : ReportsOnly errors i.targetPath) :
    let r := s.request document
    let shown := (s.lint document (.ends output errors code)).2.1
    let closed := (shown.closeDocument document).2.1
    (r.PathReturns →
      shown.store.current.get document.path = r.reported errors ∧
        closed.store.current.toList = []) ∧
    (¬ r.PathReturns →
      shown.store.current.get document.path = [] ∧
        closed.store.current.toList = r.reported errors) := by
  intro r shown closed
  obtain ⟨i', output', hbuilt, hawaited, rfl, hstore⟩ :=
    r.published_of_finished hend hstatus
  obtain ⟨written, errors', code', hchild, -, rfl⟩ := ends_of_awaited hawaited
  cases hchild
  cases hinvocation
  rw [diagnostics_collected] at hstore
  have hshown : shown.store.current = .ofList (r.reported errors) := by
    have hpublished := DiagnosticStore.current_publish_of_makesNoChange hlisteners
      (.replace (.ofList (r.reported errors)))
    rw [← hstore] at hpublished
    exact hpublished
  have hunchanging : ∀ l ∈ shown.store.listeners, l.MakesNoChange := by
    intro l hl
    have hl' : l ∈
        (s.store.publish (.replace (.ofList (r.reported errors)))).store.listeners := by
      rw [← hstore]
      exact hl
    exact hlisteners l (DiagnosticStore.mem_listeners_publish hl')
  have hpath : ∀ d ∈ r.reported errors, d.path = r.scope.resolve i.targetPath :=
    fun d hd => path_of_mem_reported hreports hd
  have hget : shown.store.current.get document.path =
      if r.scope.resolve i.targetPath = document.path then r.reported errors else [] := by
    rw [hshown, DiagnosticSet.get_ofList_of_path hpath]
  have hclosed : closed.store.current.toList =
      if r.scope.resolve i.targetPath = document.path then [] else r.reported errors := by
    have hdeleted : closed.store.current = shown.store.current.without document.path :=
      DiagnosticStore.current_publish_of_makesNoChange hunchanging (.delete document.path)
    rw [hdeleted, hshown, DiagnosticSet.toList_without_of_path hpath]
  have hreturns : r.PathReturns ↔ r.scope.resolve i.targetPath = document.path :=
    pathReturns_iff habsolute (written_of_built hbuilt)
  rw [hreturns, hget, hclosed]
  refine ⟨fun hback => ?_, fun hback => ?_⟩
  · rw [if_pos hback, if_pos hback]
    exact ⟨rfl, rfl⟩
  · rw [if_neg hback, if_neg hback]
    exact ⟨rfl, rfl⟩

/-- A document of a POSIX host, and a listener that fails when the document is closed. -/
theorem closeDocument_after_lint_native :
    let listener : Listener :=
      ⟨"A", fun content => if content.contains "/w/a.v" then []
        else [.fail (.of .runtime "boom")]⟩
    let s : Session := ⟨⟨.empty, [listener]⟩, {}, some "/w", .host, .function .ok, []⟩
    let document : Document := ⟨"/w/a.v", plainLanguage⟩
    let errors : List UInt8 := "%Error: /w/a.v:1:2: m".toUTF8.toList
    let shown := (s.lint document (.ends [] errors (some 1))).2.1
    ((s.request document).reported errors).length = 1 ∧
    shown.store.current.get document.path = (s.request document).reported errors ∧
    (shown.closeDocument document).2.1.store.current.toList = [] := by
  intro listener s document errors shown
  have hlisteners : ∀ l ∈ s.store.listeners, l.MakesNoChange := by
    intro l hl content c hc
    obtain rfl := List.mem_singleton.mp hl
    simp only [listener] at hc
    split at hc <;> simp at hc
  have hfound : (s.lint document (.ends [] errors (some 1))).1.found?.isSome = true := by
    decide +kernel
  obtain ⟨result, hend, hstatus⟩ := RunEnd.finished_of_found? hfound
  obtain ⟨i, hinvocation, hwritten⟩ := exists_invocation_of_lint hend hstatus
  have hnative : (s.request document).platform.isWindows = false := by
    decide +kernel
  have htarget : "/w/a.v" = i.targetPath := by
    rw [written_of_native hnative] at hwritten
    exact Except.ok.inj hwritten
  have hreports : ReportsOnly errors i.targetPath := by
    rw [← htarget]
    exact reportsOnly_of_all (by decide +kernel)
  refine ⟨by decide +kernel, ?_⟩
  simp only [shown]
  exact (closeDocument_after_lint hlisteners
    (by decide +kernel) hend hstatus hinvocation hreports).1
    (.native hnative)

/-- A document of a Windows host whose path has backslashes: the linter reports it by the
path with which it was called, but the diagnostics are not found under its path, and
closing it does not drop them. -/
theorem reported_elsewhere :
    let s : Session := ⟨.empty, {}, some "C:\\proj", ⟨"win32"⟩, .function .ok, []⟩
    let document : Document := ⟨"C:\\proj\\a.sv", systemLanguage⟩
    let errors : List UInt8 := "%Error: C:/proj/a.sv:1:1: m".toUTF8.toList
    let ran := s.lint document (.ends [] errors (some 1))
    let closed := (ran.2.1.closeDocument document).2.1
    s.platform.isAbsolute document.path = true ∧
    ran.1.found?.map DiagnosticSet.files = some ["C:/proj/a.sv"] ∧
    (s.request document).built.toOption.map Invocation.targetPath = some "C:/proj/a.sv" ∧
    ReportsOnly errors "C:/proj/a.sv" ∧
    ran.2.1.store.current.get document.path = [] ∧
    closed.store.current.files = ["C:/proj/a.sv"] := by
  intro s document errors ran closed
  refine ⟨by decide +kernel, by decide +kernel, by decide +kernel, ?_,
    ?_, by decide +kernel⟩
  · exact reportsOnly_of_all (by decide +kernel)
  · exact List.isEmpty_iff.mp (by decide +kernel)

end ClosedDocument
end Session
end HdlLint
