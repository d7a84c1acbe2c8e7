import HdlLint.CommandLine.Run
import HdlLint.Proofs.Settings.RunChanges

/-!
# Proper use of the lint command

What the command goes by is read from its arguments once.  Where nothing is wrong with
them, it loads settings, sets up its log, runs the linter and reports.

* `inputFault_eq_none`: nothing is wrong with arguments that are used properly.
* `settingsOf_eq`: settings that can be loaded can be used, whatever is given on the
  command line.
* `readArguments_json` and `UsedProperly.withJson`: the option for a report as one text
  changes nothing else.
* `run_commandLine`: the program carries out the command.
-/

namespace HdlLint
namespace CommandLine

/-- A command is used properly: one file is named, which is there, and the values of
options are what they have to be. -/
structure UsedProperly (s : Settings.Surroundings) (a : Arguments LintOption)
    (file : String) : Prop where
  operands_eq : a.operands = [file]
  asks_no_help : a.has .help = false
  file_found :
    '\x00' ∉ file.toList ∧
      ∃ (place : List String) (bytes : List UInt8),
        s.tree.find s.folder file = .found place (.file bytes)
  workspace_found :
    ∀ path ∈ a.text? .workspace, '\x00' ∉ path.toList ∧
      ∃ place : List String, s.tree.find s.folder path = .found place .folder
  language_known : ∀ name ∈ a.text? .language, name ∈ languages
  config_no_folder :
    ∀ path ∈ a.text? .config, '\x00' ∉ path.toList ∧
      ∀ place : List String, s.tree.find s.folder path ≠ .found place .folder

/-- The arguments with the option for a report as one text before the others. -/
def Arguments.withJson (a : Arguments LintOption) : Arguments LintOption :=
  { a with uses := (.json, .switch true) :: a.uses }

/-- The words of a command, in detail or not. -/
def commandLine (verbose : Bool) (args : List String) : List String :=
  (if verbose then ["-v"] else []) ++ "lint" :: args

/-- The run that the command asks for. -/
def requestOf (s : Situation) (a : Arguments LintOption) (settings : LintSettings)
    (file : String) : LintRequest :=
  ⟨documentOf s.surroundings a file, settings, some (workspaceOf s.surroundings a),
    s.platform, s.translator⟩

section Inputs

variable {s : Settings.Surroundings} {a : Arguments LintOption} {file : String}

theorem pathFault_file
    {hint path : String} {need : PathNeed} {place : List String} {bytes : List UInt8}
    (hnul : '\x00' ∉ path.toList)
    (hfound : s.tree.find s.folder path = .found place (.file bytes))
    (hneed : need.folder = false) :
    pathFault s hint need path = none := by
  simp [pathFault, hnul, hfound, hneed]

theorem pathFault_folder
    {hint path : String} {need : PathNeed} {place : List String}
    (hnul : '\x00' ∉ path.toList)
    (hfound : s.tree.find s.folder path = .found place .folder)
    (hneed : need.folder = true) :
    pathFault s hint need path = none := by
  simp [pathFault, hnul, hfound, hneed]

theorem pathFault_optional
    {hint path : String}
    (hnul : '\x00' ∉ path.toList)
    (hfolder : ∀ place : List String, s.tree.find s.folder path ≠ .found place .folder) :
    pathFault s hint ⟨false, false⟩ path = none := by
  have hcontains : path.toList.contains '\x00' = false := by
    simpa using hnul
  unfold pathFault
  rw [hcontains]
  cases hplace : s.tree.find s.folder path with
  | found place entry =>
      cases entry with
      | folder =>
          exact absurd hplace (hfolder place)
      | file bytes =>
          rfl
  | _ => rfl

theorem UsedProperly.optionFault_eq_none
    (h : UsedProperly s a file) (key : LintOption) :
    optionFault s a key = none := by
  unfold optionFault
  cases htext : a.text? key with
  | none =>
      cases key <;> rfl
  | some value =>
      cases key with
      | workspace =>
          obtain ⟨hnul, place, hfound⟩ := h.workspace_found value htext
          exact pathFault_folder hnul hfound rfl
      | language =>
          have hknown := h.language_known value htext
          simp [hknown]
      | config =>
          obtain ⟨hnul, hfolder⟩ := h.config_no_folder value htext
          exact pathFault_optional hnul hfolder
      | _ => rfl

/-- Nothing is wrong with arguments that are used properly. -/
theorem UsedProperly.inputFault_eq_none
    (h : UsedProperly s a file) :
    inputFault s a = none := by
  obtain ⟨hnul, place, bytes, hfound⟩ := h.file_found
  have hoptions : a.keys.findSome? (optionFault s a) = none :=
    List.findSome?_eq_none_iff.mpr fun key _ => h.optionFault_eq_none key
  rw [inputFault, hoptions, h.operands_eq]
  simp only [operandFault, pathFault_file hnul hfound]

end Inputs

section Json

variable {a : Arguments LintOption}

theorem value?_withJson
    (a : Arguments LintOption) (key : LintOption) :
    a.withJson.value? key =
      (a.value? key).or (List.lookup key [(.json, .switch true)]) := by
  simp only [Arguments.value?, Arguments.withJson, List.reverse_cons, List.lookup_append]

theorem text?_withJson
    (a : Arguments LintOption) (key : LintOption) :
    a.withJson.text? key = a.text? key := by
  unfold Arguments.text?
  rw [value?_withJson]
  -- a use that comes later counts, so the new one is only seen by an option that has no
  -- other
  cases a.value? key with
  | some value =>
      rfl
  | none =>
      cases key <;> rfl

theorem switch?_withJson
    {key : LintOption}
    (hkey : key ≠ .json) (a : Arguments LintOption) :
    a.withJson.switch? key = a.switch? key := by
  unfold Arguments.switch?
  rw [value?_withJson]
  cases a.value? key with
  | some value =>
      rfl
  | none =>
      cases key with
      | json =>
          exact absurd rfl hkey
      | _ => rfl

theorem has_json_withJson
    (a : Arguments LintOption) :
    a.withJson.has .json = true :=
  rfl

theorem workspaceOf_withJson
    (s : Settings.Surroundings) (a : Arguments LintOption) :
    workspaceOf s a.withJson = workspaceOf s a := by
  rw [workspaceOf, workspaceOf, text?_withJson]

theorem changesOf_withJson
    (a : Arguments LintOption) :
    changesOf a.withJson = changesOf a := by
  have harguments : ∀ key : LintOption,
      key ≠ .json → a.withJson.switch? key = a.switch? key :=
    fun key hkey => switch?_withJson hkey a
  rw [changesOf, changesOf, text?_withJson, text?_withJson, harguments _ (by decide),
    harguments _ (by decide)]

/-- The run that is asked for is the same. -/
theorem requestOf_withJson
    (s : Situation) (a : Arguments LintOption) (settings : LintSettings) (file : String) :
    requestOf s a.withJson settings file = requestOf s a settings file := by
  rw [requestOf, requestOf, workspaceOf_withJson, documentOf, documentOf, text?_withJson]

theorem UsedProperly.withJson
    {s : Settings.Surroundings} {file : String}
    (h : UsedProperly s a file) :
    UsedProperly s a.withJson file where
  operands_eq := h.operands_eq
  asks_no_help := h.asks_no_help
  file_found := h.file_found
  workspace_found := by
    rw [text?_withJson]
    exact h.workspace_found
  language_known := by
    rw [text?_withJson]
    exact h.language_known
  config_no_folder := by
    rw [text?_withJson]
    exact h.config_no_folder

theorem readArguments_json
    {args : List String}
    (h : readArguments closest lintForms true args = .ok a) :
    readArguments closest lintForms true ("--json" :: args) = .ok a.withJson := by
  have hstep (next : Option String) :
      useArgument closest lintForms "--json" next =
        .ok ([(.json, .switch true)], false) := by
    have hsplit : splitValue "--json" = ("--json", none) := by
      decide +kernel
    have hform : OptionForm.find? (lintForms.filter fun f => !f.isShort) "--json" =
        some ⟨"--json", .json, some true⟩ := by
      rfl
    simp only [useArgument, hsplit, hform]
    rfl
  rw [readArguments, if_neg (by decide), if_pos (by decide +kernel), hstep]
  simp only [Bool.false_eq_true, if_false, h]
  rfl

end Json

section Command

variable {s : Situation} {a : Arguments LintOption} {file : String} {loaded : Settings}

/-- Settings that can be loaded can be used, whatever is given on the command line. -/
theorem settingsOf_eq
    (h : Settings.load s.surroundings (workspaceOf s.surroundings a)
      (a.text? .config) s.environment (.map []) = .ok loaded) :
    settingsOf s a =
      .ok { loaded with linting := loaded.linting.changed (changesOf a) } := by
  have hoverlay := overlay_eq (hasTimeout_of_load h) (changesOf a)
  unfold settingsOf
  rw [h]
  simp only [Except.mapError, bind, Except.bind, hoverlay]
  rfl

theorem readArguments_commandLine
    (verbose : Bool) (args : List String) :
    readArguments closest mainForms false (commandLine verbose args) =
      .ok ⟨if verbose then [(.verbose, .switch true)] else [], "lint" :: args⟩ := by
  have hname : readArguments closest mainForms false ("lint" :: args) =
      .ok ⟨[], "lint" :: args⟩ := by
    rw [readArguments, if_neg (by decide), if_neg (by decide +kernel)]
    rfl
  cases verbose with
  | false =>
      exact hname
  | true =>
      have hstep : useArgument closest mainForms "-v" (some "lint") =
          .ok ([(.verbose, .switch true)], false) :=
        rfl
      rw [commandLine, if_pos rfl, List.singleton_append, readArguments,
        if_neg (by decide), if_pos (by decide +kernel),
        List.head?_cons, hstep]
      simp only [Bool.false_eq_true, if_false, hname]
      rfl

/-- The program carries out the command. -/
theorem run_commandLine
    (s : Situation) (verbose : Bool) (args : List String) :
    run s (commandLine verbose args) =
      lint s (initialLog { tree := s.surroundings.tree } verbose) verbose args := by
  have hwords : (commandLine verbose args).isEmpty = false := by
    cases verbose <;> rfl
  unfold run
  simp only [hwords, readArguments_commandLine, Bool.false_eq_true, if_false]
  cases verbose <;> rfl

/-- What becomes of a command that is used properly. -/
theorem lint_of_usedProperly
    {log : Log} {verbose : Bool} {args : List String}
    (hread : readArguments closest lintForms true args = .ok a)
    (hproper : UsedProperly s.surroundings a file) :
    lint s log verbose args = lintFile s log verbose a file := by
  unfold lint
  simp only [hread, hproper.asks_no_help, hproper.inputFault_eq_none, hproper.operands_eq,
    Bool.false_eq_true, if_false]

end Command

end CommandLine
end HdlLint
