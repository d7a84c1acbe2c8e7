import HdlLint.Proofs.CommandLine.StandardOutput
import HdlLint.Proofs.Diagnostic.LineAccount
import HdlLint.Proofs.Report.ReportDocument

/-!
# The report of the lint command as one text

With the option for a report as one text, the lint command prints a single JSON text,
whatever the linter has written and whatever the settings are.  The result of the run is
found again in it, with each diagnostic in its place.

* `LintRequest.isWritable_of_finished`: a result can be written.
* `output_jsonReport`: what the command prints.
-/

namespace HdlLint

open Value.Json (FewDigits)

/-- The code with which a child program ends, if it does, has few digits. -/
def ChildBehavior.HasShortCode (child : ChildBehavior) : Prop :=
  ∀ (output errors : List UInt8) (code : Int),
    child = .ends output errors (some code) → FewDigits code

namespace LintRequest

section Results

variable {r : LintRequest} {child : ChildBehavior} {result : LintResult}

/-- The result of a run can be written. -/
theorem isWritable_of_finished
    (h : (r.run child .empty).1 = .finished result)
    (hcode : child.HasShortCode) :
    result.IsWritable := by
  rcases finished_cases h with
    ⟨invocation, f, rfl⟩ | ⟨i, output, errors, code, hchild, -, rfl⟩
  · exact ⟨by rintro code ⟨⟩, by rintro d ⟨⟩, List.nodup_nil⟩
  · refine ⟨?_, fun d hd => fewDigits_of_mem_read hd,
      (DiagnosticSet.grouped_ofList _).files_nodup⟩
    rintro c hc
    obtain rfl := Option.some.inj hc
    cases code with
    | none => exact fewDigits_iff.mpr (Nat.one_lt_pow (by decide) (by decide))
    | some code => exact hcode output errors code hchild

end Results

end LintRequest

namespace CommandLine

section Command

variable {s : Situation} {a : Arguments LintOption} {file : String} {loaded : Settings}

/-- Let the command be used properly with the option for a report as one text, and let
settings be loaded and the files of the log be opened.  Then what stands in the standard
output is one JSON text.  It tells the status, the command, the code and the error of the
run and the diagnostics of each file, from which the report of the result is recovered.
The diagnostics of a run that did not fail are those of the lines that can be located, by
files in the order in which these are met. -/
theorem output_jsonReport
    {args : List String}
    (hread : readArguments closest lintForms true args = .ok a)
    (hjson : a.has .json = true)
    (hproper : UsedProperly s.surroundings a file)
    (hload : Settings.load s.surroundings (workspaceOf s.surroundings a)
      (a.text? .config) s.environment (.map []) = .ok loaded)
    (htranslator : s.translator.NeverCrashes)
    (hchild : s.child.Foreseen)
    (hcode : s.child.HasShortCode) (verbose : Bool)
    (hopens : LogOpens s verbose loaded.logging) :
    let request := requestOf s a (loaded.linting.changed (changesOf a)) file
    ∃ (r : LintResult) (duration : Binary64),
      (request.run s.child .empty).1 = .finished r ∧
      Value.ofJson? (run s (commandLine verbose args)).outlets.output =
        some (r.valueWith duration) ∧
      LintReport.read? (run s (commandLine verbose args)).outlets.output = some r.report ∧
      ((∃ (invocation : Option Invocation) (f : LintFault),
        r = LintRequest.faulted invocation f) ∨
        ∃ (i : Invocation) (output errors : List UInt8) (code : Option Int),
          s.child = .ends output errors code ∧ r.invocation = some i ∧
            r.code = some (code.getD LinterRun.unknownCode) ∧
          r.errorDetail = none ∧
          r.diagnostics.groups =
            DiagnosticSet.groupsByPath
              (locatedDiagnostics request.scope (Text.Utf8.decodeLossy errors))) := by
  intro request
  obtain ⟨r, hend⟩ := request.run_finished htranslator hchild
  have hwritable := LintRequest.isWritable_of_finished hend hcode
  have hannounce : announcedOutput (announce s a (documentOf s.surroundings a file) r) =
      (r.toValue ((s.reading 1).sub (s.reading 0))).toJsonLines ++ "\n" := by
    rw [announce, if_pos hjson, announcedOutput]
  rw [output_eq_announced hread hproper hload hopens hend, hannounce]
  obtain ⟨duration, hreads⟩ :=
    LintResult.exists_reads_toValue hwritable ((s.reading 1).sub (s.reading 0))
  refine ⟨r, duration, hend, hreads.ofJson? (by simp [Value.Json.isGap]),
    LintResult.read?_toJsonLines hwritable _, ?_⟩
  rcases LintRequest.finished_cases hend with
    hfaulted | ⟨i, output, errors, code, hends, -, rfl⟩
  · exact Or.inl hfaulted
  · refine Or.inr ⟨i, output, errors, code, hends, rfl, rfl, rfl, ?_⟩
    rw [LintRequest.collected, read_eq, DiagnosticSet.groups_ofList]
    rfl

/-- Lines on two files, with quotes, a control character, characters of many bytes, a line
that is no diagnostic and a large line number: all of it is found again in the report. -/
theorem output_jsonReport_of_two_files :
    let s := oneFile
      ("%Error: b.v:18446744073709551617:2: \"x\x1b\"\nno line\n" ++
      "%Warning-WIDTH: a.v:1: \u00fc[3:0] \u2028\n" ++ "%Error-SYNTAX: b.v:3:4: 𝕏\\\n")
    let a := oneFileArguments.withJson
    let found : List (String × List Diagnostic) :=
      [("/w/b.v", [⟨"/w/b.v", 18446744073709551616, 1, "\"x\x1b\"",
        "verilator", .error, "verilator"⟩,
        ⟨"/w/b.v", 2, 3, "𝕏\\", "SYNTAX", .error, "verilator"⟩]),
      ("/w/a.v", [⟨"/w/a.v", 0, 0, "\u00fc[3:0] \u2028", "WIDTH",
        .warning, "verilator"⟩])]
    (readArguments closest lintForms true ["--json", "a.v"] = .ok a ∧
      a.has .json = true ∧
      UsedProperly s.surroundings a "a.v" ∧
      Settings.load s.surroundings (workspaceOf s.surroundings a)
        (a.text? .config) s.environment (.map []) = .ok {} ∧
      s.translator.NeverCrashes ∧ s.child.Foreseen ∧ s.child.HasShortCode ∧
        LogOpens s false ({} : Settings).logging) ∧
    (LintReport.read? (run s ["lint", "--json", "a.v"]).outlets.output).map
      (fun r => (r.status, r.code, r.diagnostics.groups)) =
      some (.dirty, some 0, found) := by
  intro s a found
  have hread : readArguments closest lintForms true ["--json", "a.v"] = .ok a :=
    readArguments_json readArguments_oneFile
  have hproper : UsedProperly s.surroundings a "a.v" := (usedProperly_oneFile _).withJson
  have hload : Settings.load s.surroundings (workspaceOf s.surroundings a)
      (a.text? .config) s.environment (.map []) =
      .ok {} := by
    rw [workspaceOf_withJson, text?_withJson]
    exact load_oneFile _
  have htranslator : s.translator.NeverCrashes := neverCrashes_oneFile _
  have hchild : s.child.Foreseen := foreseen_oneFile _
  have hcode : s.child.HasShortCode := by
    rintro output errors code hends
    obtain ⟨-, -, hcode⟩ := ChildBehavior.ends.inj hends
    obtain rfl := Option.some.inj hcode
    exact fewDigits_iff.mpr (by positivity)
  have hopens : LogOpens s false ({} : Settings).logging :=
    logOpens_of_no_files (by decide) s false
  obtain ⟨r, duration, hend, -, hreport, -⟩ :=
    output_jsonReport hread rfl hproper hload htranslator hchild hcode false hopens
  have hfound :
      ((requestOf s a (LintSettings.changed {} (changesOf a)) "a.v").run s.child
        .empty).1.delivered?.map
      (fun r => (r.status, r.code, r.diagnostics.groups)) =
      some (.dirty, some 0, found) := by
    decide +kernel
  rw [hend] at hfound
  refine ⟨⟨hread, rfl, hproper, hload, htranslator, hchild, hcode, hopens⟩, ?_⟩
  rw [show run s ["lint", "--json", "a.v"] =
    run s (commandLine false ["--json", "a.v"]) from rfl, hreport]
  exact hfound

end Command

end CommandLine
end HdlLint
