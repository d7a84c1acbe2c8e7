import HdlLint.Proofs.CommandLine.StandardOutput
import HdlLint.Proofs.Report.FaithfulTable

/-!
# The report of the lint command in words

Without the option for a report as one text, the lint command prints a table of what it
has found.  The table tells each diagnostic as it is exactly if a screen shows all
locations and messages as they are: those of which it takes a part for a tag or for the
name of an emoji it does not.

* `LintRequest.sound_of_finished`: the diagnostics of a result.
* `output_eq_tableText_iff`: when the command prints the table as it is meant to be.
* `output_table`: the same of a run, with what a screen shows of locations in files whose
  paths hold no colon.
-/

namespace HdlLint

open Report Report.Markup

namespace LintRequest

section Results

variable {r : LintRequest} {child : ChildBehavior} {result : LintResult}

/-- The diagnostics of a result are grouped and well formed, and there are none if the run
failed. -/
theorem sound_of_finished
    (h : (r.run child .empty).1 = .finished result) :
    result.diagnostics.Sound ∧
      (result.diagnostics.isNonempty = true → result.status ≠ .error) := by
  rcases finished_cases h with ⟨invocation, f, rfl⟩ | ⟨i, output, errors, code, -, -, rfl⟩
  · exact ⟨DiagnosticSet.sound_empty, fun hfound => by cases hfound⟩
  · refine ⟨DiagnosticSet.sound_read _ _, fun hfound => ?_⟩
    simp only [collected] at hfound ⊢
    rw [if_pos hfound]
    decide

end Results

end LintRequest

namespace LintResult

theorem tableText_ne_empty
    (s : DiagnosticSet) :
    tableText s ≠ "" := by
  intro h
  have hchars := congrArg String.toList h
  simp [tableText] at hchars

end LintResult

namespace CommandLine

section Command

variable {s : Situation} {a : Arguments LintOption} {file : String}
  {loaded : Settings} {r : LintResult}

theorem announcedOutput_eq_iff
    {said : Except Crash LintResult.Announcement} {text : String}
    (h : text ≠ "") :
    announcedOutput said = text ↔ said = .ok (.output text) := by
  rcases said with crash | (shown | shown)
  · simp [announcedOutput, h.symm]
  · simp [announcedOutput]
  · simp [announcedOutput, h.symm]

/-- A command that has found something prints the table as it is meant to be exactly if
the locations and messages are seen as they are. -/
theorem output_eq_tableText_iff
    {args : List String} {verbose : Bool}
    (hread : readArguments closest lintForms true args = .ok a)
    (hwords : a.has .json = false)
    (hproper : UsedProperly s.surroundings a file)
    (hload : Settings.load s.surroundings (workspaceOf s.surroundings a)
      (a.text? .config) s.environment (.map []) = .ok loaded)
    (hopens : LogOpens s verbose loaded.logging)
    (hend : ((requestOf s a (loaded.linting.changed (changesOf a)) file).run s.child
      .empty).1 = .finished r)
    (hfound : r.diagnostics.isNonempty = true)
    (hfits : LintResult.TableFits s.screen.output r.diagnostics) :
    (run s (commandLine verbose args)).outlets.output =
      LintResult.tableText r.diagnostics ↔
      ∀ d ∈ r.diagnostics.toList, LintResult.ShowsVerbatim d := by
  obtain ⟨hsound, hstatus⟩ := LintRequest.sound_of_finished hend
  have hannounce : announce s a (documentOf s.surroundings a file) r =
      r.inWords s.screen (documentOf s.surroundings a file).path := by
    rw [announce, if_neg (by rw [hwords]; exact Bool.false_ne_true)]
  rw [output_eq_announced hread hproper hload hopens hend, hannounce,
    announcedOutput_eq_iff (LintResult.tableText_ne_empty _),
    LintResult.inWords_eq_tableText_iff (hstatus hfound) hfound hsound hfits]

/-- Let the command be used properly without the option for a report as one text, let
settings be loaded and the files of the log be opened.  Let the run find diagnostics for
which there is room on the screen.  Then the command prints a row for each of them, in the
order of the set, with its location, severity, code and message, and below them the
numbers of diagnostics and of files, exactly if all locations and messages are seen as
they are.  A location in a file whose path holds no colon is seen as it is exactly if the
path is and the number of the line is not the name of an emoji. -/
theorem output_table
    {args : List String}
    (hread : readArguments closest lintForms true args = .ok a)
    (hwords : a.has .json = false)
    (hproper : UsedProperly s.surroundings a file)
    (hload : Settings.load s.surroundings (workspaceOf s.surroundings a)
      (a.text? .config) s.environment (.map []) = .ok loaded)
    (htranslator : s.translator.NeverCrashes)
    (hchild : s.child.Foreseen) (verbose : Bool)
    (hopens : LogOpens s verbose loaded.logging) :
    let request := requestOf s a (loaded.linting.changed (changesOf a)) file
    ∃ r : LintResult,
      (request.run s.child .empty).1 = .finished r ∧
      (r.diagnostics.isNonempty = true →
        LintResult.TableFits s.screen.output r.diagnostics →
        ((run s (commandLine verbose args)).outlets.output =
          LintResult.tableText r.diagnostics ↔
          ∀ d ∈ r.diagnostics.toList,
            IsVerbatim d.location.toList ∧ IsVerbatim d.message.toList)) ∧
      ∀ d ∈ r.diagnostics.toList, ':' ∉ d.path.toList →
        (IsVerbatim d.location.toList ↔ IsVerbatim d.path.toList ∧
          d.line + 1 ∉ emojiLines) := by
  intro request
  obtain ⟨r, hend⟩ := request.run_finished htranslator hchild
  refine ⟨r, hend, output_eq_tableText_iff hread hwords hproper hload hopens hend,
    fun d hd hcolon => ?_⟩
  have hwellFormed := (LintRequest.sound_of_finished hend).1.wellFormed d hd
  exact isVerbatim_location_iff hwellFormed.line_nonneg hwellFormed.column_nonneg hcolon

/-- Brackets and colons that are no tag and no name of an emoji are seen as they are. -/
theorem output_table_of_two_files :
    let s := oneFile
      "%Warning-WIDTH: a.v:3:1: x[3:0] is wide\n%Error: b.v:101:7: no module 'm'\n"
    let a := oneFileArguments
    (readArguments closest lintForms true ["a.v"] = .ok a ∧
      a.has .json = false ∧
      UsedProperly s.surroundings a "a.v" ∧
      Settings.load s.surroundings (workspaceOf s.surroundings a)
        (a.text? .config) s.environment (.map []) = .ok {} ∧
      s.translator.NeverCrashes ∧ s.child.Foreseen ∧
        LogOpens s false ({} : Settings).logging) ∧
    (run s ["lint", "a.v"]).outlets.output =
      "location      severity  code       message       \n" ++
      "/w/a.v:3:1    warning   WIDTH      x[3:0] is wide\n" ++
      "/w/b.v:101:7  error     verilator  no module 'm' \n" ++
      "\n" ++
      "2 issue(s) in 2 file(s)\n" := by
  intro s a
  have hproper : UsedProperly s.surroundings a "a.v" := usedProperly_oneFile _
  have hload : Settings.load s.surroundings (workspaceOf s.surroundings a)
      (a.text? .config) s.environment (.map []) =
      .ok {} := load_oneFile _
  have htranslator : s.translator.NeverCrashes := neverCrashes_oneFile _
  have hchild : s.child.Foreseen := foreseen_oneFile _
  have hopens : LogOpens s false ({} : Settings).logging :=
    logOpens_of_no_files (by decide) s false
  obtain ⟨r, hend, htable, hlocations⟩ :=
    output_table readArguments_oneFile rfl hproper hload htranslator hchild false hopens
  have hgroups :
      ((requestOf s a (LintSettings.changed {} (changesOf a)) "a.v").run s.child
        .empty).1.delivered?.map
      (fun r => r.diagnostics.groups) =
      some [("/w/a.v",
        [⟨"/w/a.v", 2, 0, "x[3:0] is wide", "WIDTH", .warning, "verilator"⟩]),
        ("/w/b.v", [⟨"/w/b.v", 100, 6, "no module 'm'", "verilator",
          .error, "verilator"⟩])] := by
    decide +kernel
  rw [hend] at hgroups
  have hdiagnostics : r.diagnostics = ⟨_⟩ :=
    congrArg DiagnosticSet.mk (Option.some.inj hgroups)
  have hpaths : ∀ d ∈ r.diagnostics.toList,
      ':' ∉ d.path.toList ∧ IsVerbatim d.path.toList ∧ d.line + 1 ∉ emojiLines := by
    rw [hdiagnostics]
    decide +kernel
  have hmessages : ∀ d ∈ r.diagnostics.toList, IsVerbatim d.message.toList := by
    rw [hdiagnostics]
    decide +kernel
  have hshown :=
    (htable (by rw [hdiagnostics]; decide) (by rw [hdiagnostics]; decide +kernel)).mpr
      fun d hd =>
        ⟨(hlocations d hd (hpaths d hd).1).mpr (hpaths d hd).2, hmessages d hd⟩
  refine ⟨⟨readArguments_oneFile, rfl, hproper, hload, htranslator, hchild, hopens⟩,
    hshown.trans ?_⟩
  rw [hdiagnostics]
  decide +kernel

/-- The number of a line between two colons is taken for the name of an emoji and an index
for a tag: what is printed is not the table as it is meant to be. -/
theorem output_misses_index :
    let s := oneFile "%Warning-WIDTH: a.v:100:5: width of x[i] is 0\n"
    let found : DiagnosticSet :=
      ⟨[("/w/a.v",
        [⟨"/w/a.v", 99, 4, "width of x[i] is 0", "WIDTH", .warning, "verilator"⟩])]⟩
    ((requestOf s oneFileArguments {} "a.v").run s.child .empty).1.delivered?.map
      (fun r => r.diagnostics.groups) =
      some found.groups ∧
    LintResult.tableText found =
      "location      severity  code   message           \n" ++
      "/w/a.v:100:5  warning   WIDTH  width of x[i] is 0\n" ++
      "\n" ++
      "1 issue(s) in 1 file(s)\n" ∧
    (run s ["lint", "a.v"]).outlets.output =
      "location   severity  code   message        \n" ++
      "/w/a.v💯5  warning   WIDTH  width of x is 0\n" ++
      "\n" ++
      "1 issue(s) in 1 file(s)\n" := by
  refine ⟨?_, ?_, ?_⟩ <;> decide +kernel

end Command

end CommandLine
end HdlLint
