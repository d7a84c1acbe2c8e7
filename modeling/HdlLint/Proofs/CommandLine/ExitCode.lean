import HdlLint.Proofs.CommandLine.ProperUse
import HdlLint.Proofs.Report.ResultInWords
import HdlLint.Proofs.Session.RunStages
import HdlLint.Proofs.Value.Equality

/-!
# The exit code of the lint command

The exit code is promised to tell how the run went, whatever the linter does and however
the result is reported.  A report in words shows texts of the linter as markup, and one
that cannot be shown ends the command with the code of a crash in place of the promised
one.

* `LintResult.promisedCode`: what the exit code is promised to be.
* `LintRequest.run_finished`: a run on an empty store gives a result.
* `runLint_ending` and `run_ending`: the command ends with the promised code, or in a
  crash if something cannot be opened or shown.
* `exitCode_lint`: when the exit code is the promised one, and when it does not depend on
  how the result is reported.
-/

namespace HdlLint

/-- What the exit code is promised to be: it tells whether the run failed, an error was
found, or neither. -/
def LintResult.promisedCode (r : LintResult) : Nat :=
  if r.status = .error then 2
  else if ∃ d ∈ r.diagnostics.toList, d.severity = .error then 1
  else 0

/-- The report of a result in words can be shown on a screen. -/
def LintResult.CanBeSaid (r : LintResult) (screen : Report.Screen) (document : String) :
    Prop :=
  ∃ a : LintResult.Announcement, r.inWords screen document = .ok a

/-- If the translation of paths and the launch of the linter fail only in foreseen ways, a
run gives a result. -/
theorem LintRequest.run_finished
    {r : LintRequest} {child : ChildBehavior}
    (htranslator : r.translator.NeverCrashes)
    (hchild : child.Foreseen) :
    ∃ result : LintResult, (r.run child .empty).1 = .finished result := by
  have hempty : DiagnosticStore.empty.Quiet := by
    intro l hl
    cases hl
  rcases r.run_cases child .empty with
    ⟨stop, hbuilt, hend, -⟩ | ⟨i, stop, -, hawaited, hend, -⟩ | ⟨i, output, -, -, hend, -⟩
  · obtain ⟨f, rfl, -⟩ := buildFails_of_built htranslator hbuilt
    exact ⟨_, hend⟩
  · obtain ⟨f, rfl, -⟩ := runFails_of_awaited hchild hawaited
    exact ⟨_, hend⟩
  · exact ⟨_, hend.trans (collect_end hempty output)⟩

/-- A run that gives a result failed in a foreseen way, or read what the linter has
written. -/
theorem LintRequest.finished_cases
    {r : LintRequest} {child : ChildBehavior} {result : LintResult}
    (h : (r.run child .empty).1 = .finished result) :
    (∃ (invocation : Option Invocation) (f : LintFault), result = faulted invocation f) ∨
    ∃ (i : Invocation) (output errors : List UInt8) (code : Option Int),
      child = .ends output errors code ∧ r.built = .ok i ∧
        result = r.collected i (outputOf output errors code) := by
  have hempty : DiagnosticStore.empty.Quiet := by
    intro l hl
    cases hl
  have hstopped : ∀ (invocation : Option Invocation) (stop : Stop),
      (stopped invocation stop).1 = .finished result →
      ∃ (invocation : Option Invocation) (f : LintFault),
        result = faulted invocation f := by
    rintro invocation (f | crash) hstop
    · exact ⟨invocation, f, (RunEnd.finished.inj hstop).symm⟩
    · cases hstop
  rcases r.run_cases child .empty with
    ⟨stop, -, hend, -⟩ | ⟨i, stop, -, -, hend, -⟩ | ⟨i, output, hbuilt, hawaited, hend, -⟩
  · exact Or.inl (hstopped none stop (hend.symm.trans h))
  · exact Or.inl (hstopped (some i) stop (hend.symm.trans h))
  · obtain ⟨written, errors, code, hchild, -, rfl⟩ := ends_of_awaited hawaited
    have hresult := hend.trans (collect_end hempty _)
    exact Or.inr ⟨i, written, errors, code, hchild, hbuilt,
      RunEnd.finished.inj (h.symm.trans hresult)⟩

namespace CommandLine

open Report.Markup

/-- The files to which the log of a run goes can be opened.  A file tree holds regular
files and folders only, so that a destination such as a device or a pipe is not spoken of
here. -/
def LogOpens (s : Situation) (verbose : Bool) (settings : LogSettings) : Prop :=
  (logForRun (initialLog { tree := s.surroundings.tree } verbose) verbose settings).1 =
    none

/-- A result can be reported: as one text always, in words if they can be shown. -/
def Reportable (screen : Report.Screen) (a : Arguments LintOption) (r : LintResult)
    (document : String) : Prop :=
  a.has .json = true ∨ r.CanBeSaid screen document

/-- A command ends with the promised code if a condition holds, and in a crash
otherwise. -/
def EndsAsPromised (ending : Ending) (r : LintResult) (condition : Prop) : Prop :=
  (condition → ending = .code r.promisedCode) ∧
    (¬ condition → ∃ c : Crash, ending = .crash c)

section Command

variable {s : Situation} {a : Arguments LintOption} {file : String}
  {loaded : Settings} {r : LintResult}

theorem logOpens_of_no_files
    {settings : LogSettings}
    (h : ∀ o ∈ settings.outputs, o.destination.file? = none)
    (s : Situation) (verbose : Bool) :
    LogOpens s verbose settings := by
  have hfiles : (settings.outputs.filter fun o => o.destination.file?.isSome) = [] :=
    List.filter_eq_nil_iff.mpr fun o ho => by simp [h o ho]
  rw [LogOpens, logForRun, LogSettings.forRun, hfiles]

theorem resultCode_eq
    (r : LintResult) :
    resultCode r = r.promisedCode := by
  simp [resultCode, LintResult.promisedCode, DiagnosticSet.hasErrors,
    runFailedCode, errorsFoundCode]

theorem reportable_iff
    {document : Document} :
    Reportable s.screen a r document.path ↔ ∃ text : LintResult.Announcement,
      announce s a document r = .ok text := by
  unfold announce Reportable
  cases a.has .json <;> simp [LintResult.CanBeSaid]

/-- Once the log is set up, the command ends with the promised code if it can report the
result. -/
theorem runLint_ending
    {settings : LintSettings}
    (hend : ((requestOf s a settings file).run s.child .empty).1 = .finished r)
    (log : Log) :
    EndsAsPromised (runLint s a settings (documentOf s.surroundings a file) log).ending r
      (Reportable s.screen a r (documentOf s.surroundings a file).path) := by
  unfold EndsAsPromised runLint
  rw [reportable_iff (s := s)]
  cases hrun : (requestOf s a settings file).run s.child .empty with
  | mk how rest =>
      rw [hrun] at hend
      obtain rfl : how = .finished r := hend
      unfold requestOf at hrun
      simp only [hrun]
      cases hannounce : announce s a (documentOf s.surroundings a file) r with
      | error c =>
          simp
      | ok text =>
          simp [resultCode_eq]

/-- A command that is used properly ends with the promised code if its log can be opened
and its result reported. -/
theorem run_ending
    {args : List String}
    (hread : readArguments closest lintForms true args = .ok a)
    (hproper : UsedProperly s.surroundings a file)
    (hload : Settings.load s.surroundings (workspaceOf s.surroundings a)
      (a.text? .config) s.environment (.map []) = .ok loaded)
    (hend : ((requestOf s a (loaded.linting.changed (changesOf a)) file).run s.child
      .empty).1 = .finished r) (verbose : Bool) :
    EndsAsPromised (run s (commandLine verbose args)).ending r
      (LogOpens s verbose loaded.logging ∧
        Reportable s.screen a r (documentOf s.surroundings a file).path) := by
  rw [run_commandLine, lint_of_usedProperly hread hproper]
  unfold lintFile LogOpens
  simp only [settingsOf_eq hload]
  cases logForRun (initialLog { tree := s.surroundings.tree } verbose)
    verbose loaded.logging with
  | mk crash log =>
      cases crash with
      | some c =>
          simp [EndsAsPromised]
      | none =>
          simpa using runLint_ending hend log

theorem EndsAsPromised.exitCode_eq_iff
    {ending : Ending} {condition : Prop}
    (h : EndsAsPromised ending r condition) :
    ending.exitCode = r.promisedCode ↔ r.promisedCode = 1 ∨ condition := by
  by_cases hcondition : condition
  · obtain rfl := h.1 hcondition
    simp [Ending.exitCode, hcondition]
  · obtain ⟨c, rfl⟩ := h.2 hcondition
    simp [Ending.exitCode, hcondition, eq_comm]

/-- Two endings that should have the same code have it unless just one of them is a
crash. -/
theorem EndsAsPromised.exitCode_eq_exitCode_iff
    {ending ending' : Ending} {condition condition' : Prop}
    (h : EndsAsPromised ending r condition)
    (h' : EndsAsPromised ending' r condition') :
    ending.exitCode = ending'.exitCode ↔ r.promisedCode = 1 ∨
      (condition ↔ condition') := by
  by_cases hcondition : condition <;> by_cases hcondition' : condition'
  · obtain rfl := h.1 hcondition
    obtain rfl := h'.1 hcondition'
    simp [hcondition, hcondition']
  · obtain rfl := h.1 hcondition
    obtain ⟨c, rfl⟩ := h'.2 hcondition'
    simp [Ending.exitCode, hcondition, hcondition']
  · obtain ⟨c, rfl⟩ := h.2 hcondition
    obtain rfl := h'.1 hcondition'
    simp [Ending.exitCode, hcondition, hcondition', eq_comm]
  · obtain ⟨c, rfl⟩ := h.2 hcondition
    obtain ⟨c', rfl⟩ := h'.2 hcondition'
    simp [Ending.exitCode, hcondition, hcondition']

/-- Let the command be used properly, let settings be loaded, and let the translation of
paths and the launch of the linter fail only in foreseen ways.  Then the run gives a
result.  The exit code is the promised one exactly if that is the code of a crash too, or
the files of the log can be opened and the result can be reported.  In words it can be if
no text that is shown holds a tag, and cannot be if the first tag in one of them closes a
style. -/
theorem exitCode_lint
    {args : List String}
    (hread : readArguments closest lintForms true args = .ok a)
    (hproper : UsedProperly s.surroundings a file)
    (hload : Settings.load s.surroundings (workspaceOf s.surroundings a)
      (a.text? .config) s.environment (.map []) = .ok loaded)
    (htranslator : s.translator.NeverCrashes)
    (hchild : s.child.Foreseen) (verbose : Bool) :
    let request := requestOf s a (loaded.linting.changed (changesOf a)) file
    let code := fun args => (run s (commandLine verbose args)).ending.exitCode
    let opens := LogOpens s verbose loaded.logging
    ∃ r : LintResult,
      (request.run s.child .empty).1 = .finished r ∧
      (code args = r.promisedCode ↔ r.promisedCode = 1 ∨
        (opens ∧ Reportable s.screen a r request.document.path)) ∧
      (code ("--json" :: args) = r.promisedCode ↔ r.promisedCode = 1 ∨ opens) ∧
      (code args = code ("--json" :: args) ↔
        r.promisedCode = 1 ∨ (opens → Reportable s.screen a r request.document.path)) ∧
      ((∀ text ∈ r.shownTexts request.document.path, HoldsNoTag text.toList) →
        r.CanBeSaid s.screen request.document.path) ∧
      ((∃ text ∈ r.shownTexts request.document.path, ClosesFirst text.toList) →
        ¬ r.CanBeSaid s.screen request.document.path) ∧
      ((∀ o ∈ loaded.logging.outputs, o.destination.file? = none) → opens) := by
  intro request code opens
  obtain ⟨r, hend⟩ := request.run_finished htranslator hchild
  have hwords : EndsAsPromised (run s (commandLine verbose args)).ending r
      (opens ∧ Reportable s.screen a r request.document.path) :=
    run_ending hread hproper hload hend verbose
  -- the option for a report as one text changes neither the run nor the settings
  have hjson :
      EndsAsPromised (run s (commandLine verbose ("--json" :: args))).ending r opens := by
    rw [← workspaceOf_withJson, ← text?_withJson] at hload
    have hrun : ((requestOf s a.withJson (loaded.linting.changed (changesOf a.withJson))
        file).run s.child .empty).1 =
        .finished r := by
      rw [changesOf_withJson, requestOf_withJson]
      exact hend
    have hending :=
      run_ending (readArguments_json hread) hproper.withJson hload hrun verbose
    simpa [EndsAsPromised, Reportable, has_json_withJson] using hending
  refine ⟨r, hend, hwords.exitCode_eq_iff, hjson.exitCode_eq_iff, ?_,
    LintResult.inWords_of_holdsNoTag, ?_,
    fun hfiles => logOpens_of_no_files hfiles s verbose⟩
  · exact (hwords.exitCode_eq_exitCode_iff hjson).trans (by rw [and_iff_left_iff_imp])
  · rintro hcloses ⟨text, htext⟩
    obtain ⟨c, hc⟩ := LintResult.inWords_of_closesFirst hcloses
    cases htext.symm.trans hc

/-- A folder with one file, on which the linter writes a text. -/
def oneFile (errors : String) : Situation where
  surroundings :=
    { tree := ⟨[(["w"], .folder), (["w", "a.v"], .file [])]⟩, folder := ["w"],
      userFile := "/user/config.yaml"
      homes := .own "/home/user", documentRoom := fun _ => 480,
        variableRoom := fun _ => 960 }
  environment := []
  platform := .host
  translator := .function .ok
  child := .ends [] errors.toUTF8.toList (some 0)
  clock := []
  time := ""
  screen := ⟨80, 80⟩

/-- The arguments that name the one file. -/
def oneFileArguments : Arguments LintOption := ⟨[], ["a.v"]⟩

theorem readArguments_oneFile :
    readArguments closest lintForms true ["a.v"] = .ok oneFileArguments := by
  rw [readArguments, if_neg (by decide), if_neg (by decide +kernel),
    if_pos rfl, readArguments]
  rfl

theorem usedProperly_oneFile
    (errors : String) :
    UsedProperly (oneFile errors).surroundings oneFileArguments "a.v" where
  operands_eq := rfl
  asks_no_help := rfl
  file_found := ⟨by decide +kernel, ["w", "a.v"], [], rfl⟩
  workspace_found := by rintro path ⟨⟩
  language_known := by rintro name ⟨⟩
  config_no_folder := by rintro path ⟨⟩

theorem load_oneFile
    (errors : String) :
    let s := oneFile errors
    Settings.load s.surroundings (workspaceOf s.surroundings oneFileArguments)
      (oneFileArguments.text? .config) s.environment
      (.map []) = .ok {} := by
  -- nothing that is read depends on what the linter writes
  change Settings.load (oneFile "").surroundings
    (workspaceOf (oneFile "").surroundings oneFileArguments)
    (oneFileArguments.text? .config) (oneFile "").environment (.map []) = .ok {}
  decide +kernel

theorem neverCrashes_oneFile
    (errors : String) :
    (oneFile errors).translator.NeverCrashes := by
  intro path crash h
  cases h

theorem foreseen_oneFile
    (errors : String) :
    (oneFile errors).child.Foreseen := by
  simp [oneFile, ChildBehavior.Foreseen]

/-- A warning with brackets that are no tag: the command succeeds however it is
reported. -/
theorem exitCode_of_index :
    let s := oneFile "%Warning-WIDTH: a.v:1:1: x[3:0]\n"
    let a : Arguments LintOption := ⟨[], ["a.v"]⟩
    (readArguments closest lintForms true ["a.v"] = .ok a ∧
      UsedProperly s.surroundings a "a.v" ∧
      Settings.load s.surroundings (workspaceOf s.surroundings a)
        (a.text? .config) s.environment (.map []) = .ok {} ∧
      s.translator.NeverCrashes ∧ s.child.Foreseen) ∧
    (run s ["lint", "a.v"]).ending.exitCode = 0 ∧
    (run s ["lint", "--json", "a.v"]).ending.exitCode = 0 := by
  intro s a
  have hread : readArguments closest lintForms true ["a.v"] = .ok a := by
    rw [readArguments, if_neg (by decide), if_neg (by decide +kernel),
      if_pos rfl, readArguments]
    rfl
  have hproper : UsedProperly s.surroundings a "a.v" :=
    { operands_eq := rfl
      asks_no_help := rfl
      file_found := ⟨by decide +kernel, ["w", "a.v"], [], by rfl⟩
      workspace_found := by rintro path ⟨⟩
      language_known := by rintro name ⟨⟩
      config_no_folder := by rintro path ⟨⟩ }
  have hload : Settings.load s.surroundings (workspaceOf s.surroundings a)
      (a.text? .config) s.environment (.map []) =
      .ok {} := by
    decide +kernel
  have htranslator : s.translator.NeverCrashes := by
    intro path crash h
    cases h
  have hchild : s.child.Foreseen := by
    simp [s, oneFile, ChildBehavior.Foreseen]
  obtain ⟨r, hend, hwords, hjson, -, hsaid, -, hopens⟩ :=
    exitCode_lint hread hproper hload htranslator hchild false
  have hopened := hopens (by decide)
  have hpath : (documentOf s.surroundings a "a.v").path = "/w/a.v" := by
    decide +kernel
  have hfound :
      ((requestOf s a (LintSettings.changed {} (changesOf a)) "a.v").run s.child
        .empty).1.delivered?.map
      (fun r => (r.promisedCode, r.shownTexts "/w/a.v")) =
        some (0, ["/w/a.v", "WIDTH", "x[3:0]"]) := by
    decide +kernel
  rw [hend, ← hpath] at hfound
  obtain ⟨hcode, htexts⟩ := Prod.mk.inj (Option.some.inj hfound)
  have hshown := hsaid (htexts ▸ by decide +kernel)
  rw [hcode] at hwords hjson
  exact ⟨⟨hread, hproper, hload, htranslator, hchild⟩,
    hwords.mpr (Or.inr ⟨hopened, Or.inr hshown⟩),
    hjson.mpr (Or.inr hopened)⟩

/-- A warning that quotes a closing tag: nothing is found that is an error, and the
command succeeds with a report as one text, but crashes in words. -/
theorem exitCode_of_closing_tag :
    let s := oneFile "%Warning: a.v:1:1: see [/b]\n"
    ((requestOf s ⟨[], ["a.v"]⟩ {} "a.v").run s.child .empty).1.delivered?.map
      LintResult.promisedCode = some 0 ∧
    (run s ["lint", "a.v"]).ending.exitCode = 1 ∧
    (run s ["lint", "--json", "a.v"]).ending.exitCode = 0 := by
  refine ⟨?_, ?_, ?_⟩ <;> decide +kernel

end Command

end CommandLine
end HdlLint
