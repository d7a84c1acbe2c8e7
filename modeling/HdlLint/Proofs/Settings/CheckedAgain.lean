import HdlLint.Proofs.CommandLine.ProperUse
import HdlLint.Proofs.Path.TidyPaths
import HdlLint.Proofs.Settings.CheckedParts
import HdlLint.Proofs.Text.StrippedTexts
import HdlLint.Proofs.Value.Equality

/-!
# Settings checked again

A check does not only accept or refuse: it strips arguments, puts home folders in place of
tildes, tidies paths and reads numbers and truth values of many spellings.  What comes out
needs none of this again.  Settings are valid if their arguments are stripped, their time
limit is not refused and their log goes to streams and tidy absolute paths; every check
gives valid settings, and valid settings, shown as a map of values, are checked to
themselves.

* `Check.isValid_destination` and `Check.destination_name`: a destination, checked once
  and again.
* `Settings.isValid_of_check` and `Settings.check_toValue`: all settings, checked once and
  again.
* `Settings.checks_to_itself`: what this means for settings that were loaded and for those
  given for one run.
-/

namespace HdlLint

open Settings (Takes)

/-- A destination as a check gives it: a stream, or a tidy absolute path. -/
def LogDestination.IsValid : LogDestination → Prop
  | .file path => Path.Posix.IsTidy path.toList
  | _ => True

/-- Settings of the log as a check gives them. -/
def LogSettings.IsValid (s : LogSettings) : Prop :=
  ∀ o ∈ s.outputs, o.destination.IsValid

/-- Settings of the linter as a check gives them. -/
structure LintSettings.IsValid (s : LintSettings) : Prop where
  arguments : Text.trim s.arguments = s.arguments
  timeout : s.HasTimeout

/-- Settings as a check gives them. -/
structure Settings.IsValid (s : Settings) : Prop where
  logging : s.logging.IsValid
  linting : s.linting.IsValid

namespace Checked

variable {α : Type}

theorem all_eq_ok_iff
    {parts : List (Checked α)} {as : List α} :
    all parts = .ok as ↔ parts = as.map .ok := by
  induction parts generalizing as with
  | nil =>
      rw [all, ok.injEq, eq_comm, eq_comm (a := []), List.map_eq_nil_iff]
  | cons c parts ih =>
      change map List.cons c <*> all parts = .ok as ↔ _
      rw [seq_eq_ok_iff]
      cases as with
      | nil =>
          refine iff_of_false ?_ (by rintro ⟨⟩)
          rintro ⟨f, rest, hf, -, hcons⟩
          cases c with
          | ok a =>
              cases hf
              cases hcons
          | _ => cases hf
      | cons a as =>
          rw [List.map_cons, List.cons.injEq, ← ih]
          cases c <;> simp [map, and_comm]

end Checked

namespace Check

section Again

variable {homes : Homes} {v : Value}

/-- A path that was expanded and is absolute is tidy. -/
theorem isTidy_of_expandHome
    {s path : List Char}
    (h : expandHome homes s = .ok path)
    (habsolute : Path.Posix.isAbsolute path = true) :
    Path.Posix.IsTidy path := by
  obtain ⟨s', rfl⟩ : ∃ s' : List Char, path = Path.Posix.tidy s' := by
    unfold expandHome at h
    split at h
    · obtain ⟨home, -, rfl⟩ := exceptMap_ok h
      exact ⟨_, rfl⟩
    · exact ⟨s, (Except.ok.inj h).symm⟩
  exact Path.Posix.isTidy_tidy (Path.Posix.isAbsolute_of_isAbsolute_tidy habsolute)

theorem expandHome_of_isTidy
    {s : List Char}
    (h : Path.Posix.IsTidy s) :
    expandHome homes s = .ok s := by
  have hanchor : (Path.Posix.anchor s).isEmpty = false := by
    rcases Path.Posix.anchor_of_isAbsolute h.isAbsolute with
      hslash | hslash <;> rw [hslash] <;> rfl
  unfold expandHome
  rw [hanchor, h.tidy_eq]

theorem isValid_destination
    {d : LogDestination}
    (h : destination homes v = .ok d) :
    d.IsValid := by
  unfold destination at h
  cases htext : text v with
  | ok s =>
      rw [htext] at h
      simp only [Checked.bind] at h
      split at h
      · cases h
        trivial
      · split at h
        · cases h
          trivial
        · split at h
          · split at h <;> cases h
          · rename_i path hpath
            split at h
            · rename_i habsolute
              cases h
              change Path.Posix.IsTidy (String.ofList path).toList
              rw [String.toList_ofList]
              exact isTidy_of_expandHome hpath habsolute
            · cases h
  | _ =>
      rw [htext] at h
      cases h

/-- A valid destination is checked to itself. -/
theorem destination_name
    {d : LogDestination}
    (h : d.IsValid) :
    destination homes (.text d.name) = .ok d := by
  cases d with
  | errorStream =>
      rfl
  | outputStream =>
      rfl
  | file path =>
      have hne : path ≠ "stderr" ∧ path ≠ "stdout" := by
        constructor <;> rintro rfl <;> exact absurd
          (Path.Posix.IsTidy.isAbsolute h) (by decide)
      simp only [destination, text, Checked.bind, LogDestination.name,
        if_neg hne.1, if_neg hne.2,
        expandHome_of_isTidy h, Path.Posix.IsTidy.isAbsolute h,
          String.ofList_toList, if_true]

theorem level_settingName
    (l : LogLevel) :
    level (.text l.settingName) = .ok l := by
  cases l <;> rfl

theorem format_name
    (f : LogFormat) :
    format (.text f.name) = .ok f := by
  cases f <;> rfl

theorem optional_level
    (l : Option LogLevel) :
    optional level (.ofText? (l.map LogLevel.settingName)) = .ok l := by
  cases l with
  | none =>
      rfl
  | some l =>
      exact congrArg (Checked.map some) (level_settingName l)

/-- Every member of a checked list is the check of something. -/
theorem exists_check_of_list
    {α : Type} {check : Value → Checked α} {as : List α}
    (h : list check v = .ok as) :
    ∀ a ∈ as, ∃ x : Value, check x = .ok a := by
  have hmembers : ∀ xs : List Value,
      Checked.all (xs.mapIdx fun i x => (check x).inside (.index i)) = .ok as → ∀ a ∈ as,
        ∃ x : Value, check x = .ok a := by
    intro xs hall a ha
    have hmem : Checked.ok a ∈ xs.mapIdx fun i x => (check x).inside (.index i) := by
      rw [Checked.all_eq_ok_iff.mp hall]
      exact List.mem_map_of_mem ha
    obtain ⟨i, hi, hcheck⟩ := List.mem_mapIdx.mp hmem
    exact ⟨xs[i], Checked.inside_eq_ok_iff.mp hcheck⟩
  unfold list at h
  dsimp only at h
  split at h
  · exact hmembers _ h
  · exact hmembers _ h
  · exact hmembers _ h
  · cases h

/-- A list whose members are checked to themselves is checked to itself. -/
theorem list_map
    {α : Type} {check : Value → Checked α} {toValue : α → Value} {as : List α}
    (h : ∀ a ∈ as, check (toValue a) = .ok a) :
    list check (.list (as.map toValue)) = .ok as := by
  change Checked.all ((as.map toValue).mapIdx fun i x => (check x).inside (.index i)) =
    .ok as
  rw [Checked.all_eq_ok_iff]
  refine List.ext_getElem (by simp) fun i hi hi' => ?_
  simp only [List.getElem_mapIdx, List.getElem_map]
  rw [h _ (List.getElem_mem _)]
  rfl

end Again

end Check

section Models

variable {homes : Homes} {v : Value}

theorem LogOutput.isValid_of_check
    {o : LogOutput}
    (h : LogOutput.check homes v = .ok o) :
    o.destination.IsValid := by
  obtain ⟨-, -, hdestination, -⟩ := LogOutput.check_eq_ok_iff.mp h
  obtain ⟨x, hx⟩ | hdefault := hdestination.checked_or_default
  · exact Check.isValid_destination hx
  · rw [hdefault]
    trivial

theorem LogOutput.check_toValue
    {o : LogOutput}
    (h : o.destination.IsValid) :
    LogOutput.check homes o.toValue = .ok o :=
  LogOutput.check_eq_ok_iff.mpr
    ⟨⟨_, rfl⟩, Check.format_name o.format, Check.destination_name h,
      Check.optional_level o.level⟩

theorem LogSettings.isValid_of_check
    {s : LogSettings}
    (h : LogSettings.check homes v = .ok s) :
    s.IsValid := by
  obtain ⟨-, -, houtputs⟩ := LogSettings.check_eq_ok_iff.mp h
  intro o ho
  obtain ⟨x, hx⟩ | hdefault := houtputs.checked_or_default
  · obtain ⟨y, hy⟩ := Check.exists_check_of_list hx o ho
    exact LogOutput.isValid_of_check hy
  · rw [hdefault] at ho
    obtain rfl := List.mem_singleton.mp ho
    trivial

theorem LogSettings.check_toValue
    {s : LogSettings}
    (h : s.IsValid) :
    LogSettings.check homes s.toValue = .ok s :=
  LogSettings.check_eq_ok_iff.mpr
    ⟨⟨_, rfl⟩, Check.level_settingName s.level,
      Check.list_map fun o ho => LogOutput.check_toValue (h o ho)⟩

theorem LintSettings.isValid_of_check
    {s : LintSettings}
    (h : LintSettings.check v = .ok s) :
    s.IsValid := by
  obtain ⟨-, -, harguments, -⟩ := LintSettings.check_eq_ok_iff.mp h
  refine ⟨?_, hasTimeout_of_check h⟩
  obtain ⟨x, hx⟩ | hdefault := harguments.checked_or_default
  · unfold Check.arguments at hx
    cases htext : Check.text x with
    | ok t =>
        rw [htext] at hx
        rw [← Checked.ok.inj hx]
        exact Text.trim_trim t
    | _ =>
        rw [htext] at hx
        cases hx
  · rw [hdefault]
    decide

theorem LintSettings.check_toValue
    {s : LintSettings}
    (h : s.IsValid) :
    LintSettings.check s.toValue = .ok s :=
  LintSettings.check_eq_ok_iff.mpr
    ⟨⟨_, rfl⟩, rfl, congrArg Checked.ok h.arguments, rfl, rfl, timeout_ofReal? h.timeout⟩

/-- Every check gives valid settings. -/
theorem Settings.isValid_of_check
    {s : Settings}
    (h : Settings.check homes v = .ok s) :
    s.IsValid := by
  obtain ⟨-, hlogging, hlinting⟩ := Settings.check_eq_ok_iff.mp h
  constructor
  · obtain ⟨x, hx⟩ | hdefault := hlogging.checked_or_default
    · exact LogSettings.isValid_of_check hx
    · rw [hdefault]
      intro o ho
      obtain rfl := List.mem_singleton.mp ho
      trivial
  · obtain ⟨x, hx⟩ | hdefault := hlinting.checked_or_default
    · exact LintSettings.isValid_of_check hx
    · rw [hdefault]
      exact ⟨by decide, by rintro x ⟨⟩⟩

/-- Valid settings are checked to themselves. -/
theorem Settings.check_toValue
    {s : Settings}
    (h : s.IsValid) :
    Settings.check homes s.toValue = .ok s :=
  Settings.check_eq_ok_iff.mpr
    ⟨⟨_, rfl⟩, LogSettings.check_toValue h.logging, LintSettings.check_toValue h.linting⟩

end Models

section Loaded

variable {s : LintSettings}

/-- Nothing but what was given changes. -/
theorem LintSettings.changed_of_isValid
    (h : s.IsValid) (c : LintChanges) :
    s.changed c =
      { path := c.path.getD s.path
        arguments := (c.arguments.map Text.trim).getD s.arguments
        runAtFile := c.runAtFile.getD s.runAtFile
        useWsl := c.useWsl.getD s.useWsl
        timeout := s.timeout } := by
  have harguments : Text.trim (c.arguments.getD s.arguments) =
      (c.arguments.map Text.trim).getD s.arguments := by
    cases c.arguments with
    | none =>
        exact h.arguments
    | some t =>
        rfl
  rw [LintSettings.changed, harguments]

/-- Settings that were checked are valid and are checked to themselves, wherever homes are
by then.  So what was loaded can be checked once more, without an issue and without a
change, before it is handed out.  Settings that are given for one run are laid over the
loaded ones without an issue and change nothing else. -/
theorem Settings.checks_to_itself :
    (∀ (homes homes' : Homes) (v : Value) (o : LogOutput),
      LogOutput.check homes v = .ok o →
      LogOutput.check homes' o.toValue = .ok o ∧ o.destination.IsValid) ∧
    (∀ (homes homes' : Homes) (v : Value) (s : LogSettings),
      LogSettings.check homes v = .ok s →
      LogSettings.check homes' s.toValue = .ok s ∧ s.IsValid) ∧
    (∀ (v : Value) (s : LintSettings), LintSettings.check v = .ok s →
      LintSettings.check s.toValue = .ok s ∧ s.IsValid) ∧
    (∀ (homes homes' : Homes) (v : Value) (s : Settings), Settings.check homes v = .ok s →
      Settings.check homes' s.toValue = .ok s ∧ s.IsValid) ∧
    (∀ (surroundings : Surroundings) (homes : Homes) (root : String)
      (extra : Option String)
      (environment : List (String × String)) (given : Value) (loaded : Settings),
      load surroundings root extra environment given = .ok loaded →
      Settings.check homes loaded.toValue = .ok loaded ∧
        ∀ c : LintChanges, loaded.linting.overlay c =
          .ok { path := c.path.getD loaded.linting.path
                arguments := (c.arguments.map Text.trim).getD loaded.linting.arguments
                runAtFile := c.runAtFile.getD loaded.linting.runAtFile
                useWsl := c.useWsl.getD loaded.linting.useWsl
                timeout := loaded.linting.timeout }) ∧
    ∀ (s : CommandLine.Situation) (a : CommandLine.Arguments CommandLine.LintOption)
      (loaded : Settings),
      load s.surroundings (CommandLine.workspaceOf s.surroundings a)
        (a.text? .config) s.environment (.map []) =
        .ok loaded →
      ∃ linting : LintSettings,
        loaded.linting.overlay (CommandLine.changesOf a) = .ok linting ∧
          CommandLine.settingsOf s a = .ok { loaded with linting := linting } := by
  refine ⟨fun _ _ v o h => ?_, fun _ _ v s h => ?_, fun v s h => ?_, fun _ _ v s h => ?_,
    ?_, fun s a loaded h => ?_⟩
  · have hvalid := LogOutput.isValid_of_check h
    exact ⟨LogOutput.check_toValue hvalid, hvalid⟩
  · have hvalid := LogSettings.isValid_of_check h
    exact ⟨LogSettings.check_toValue hvalid, hvalid⟩
  · have hvalid := LintSettings.isValid_of_check h
    exact ⟨LintSettings.check_toValue hvalid, hvalid⟩
  · have hvalid := Settings.isValid_of_check h
    exact ⟨Settings.check_toValue hvalid, hvalid⟩
  · intro surroundings homes root extra environment given loaded h
    obtain ⟨sources, hsources⟩ := check_of_load h
    have hvalid := Settings.isValid_of_check hsources
    refine ⟨Settings.check_toValue hvalid, fun c => ?_⟩
    rw [overlay_eq hvalid.linting.timeout c,
      LintSettings.changed_of_isValid hvalid.linting]
  · exact ⟨_, overlay_eq (hasTimeout_of_load h) _, CommandLine.settingsOf_eq h⟩

/-- Destinations in two home folders and arguments between blanks, and other arguments for
one run.  When the settings are checked again, no home is known any more. -/
theorem Settings.checks_to_itself_tilde :
    let homes : Homes := fun user => [("", "/home/user/"), ("root", "/root")].lookup user
    let gone : Homes := fun _ => none
    let output : Value := .map [(.text "destination", .text "~//x/./a.log")]
    let other : Value := .map [(.text "destination", .text "~root/b.log")]
    let logging : Value := .map [(.text "outputs", .list [output, other])]
    let linting : Value :=
      .map [(.text "arguments", .text " -Wall "), (.text "timeout_sec", .bool true)]
    let given : Value := .map [(.text "logging", logging), (.text "linting", linting)]
    let o : LogOutput := { destination := .file "/home/user/x/a.log" }
    let log : LogSettings := { outputs := [o, { destination := .file "/root/b.log" }] }
    let s : LintSettings := { arguments := "-Wall", timeout := some (.ofInt 1) }
    let settings : Settings := { logging := log, linting := s }
    let situation : CommandLine.Situation :=
      { surroundings :=
          { tree := ⟨[]⟩, folder := ["w"], userFile := "/user/config.yaml", homes := homes
            documentRoom := fun _ => 480, variableRoom := fun _ => 960 }
        environment := [], platform := .host, translator := .function .ok,
          child := .ends [] [] (some 0), clock := []
        time := "", screen := ⟨80, 80⟩ }
    let a : CommandLine.Arguments CommandLine.LintOption :=
      ⟨[(.arguments, .text " -Wno-WIDTH ")], ["a.v"]⟩
    (LogOutput.check homes output = .ok o ∧ LogSettings.check homes logging = .ok log ∧
      LintSettings.check linting = .ok s ∧ Settings.check homes given = .ok settings ∧
      load situation.surroundings "/w" none [] given = .ok settings ∧
      load situation.surroundings (CommandLine.workspaceOf situation.surroundings a)
        (a.text? .config) [] (.map []) =
        .ok {}) ∧
    LogOutput.check gone o.toValue = .ok o ∧
      LogSettings.check gone log.toValue = .ok log ∧
    LintSettings.check s.toValue = .ok s ∧
      Settings.check gone settings.toValue = .ok settings ∧
    s.overlay { arguments := some " -Wno-WIDTH " } =
      .ok { s with arguments := "-Wno-WIDTH" } ∧
    CommandLine.settingsOf situation a =
      .ok { linting := { arguments := "-Wno-WIDTH" } } := by
  intro homes gone output other logging linting given o log s settings situation a
  obtain ⟨houtput, hlogging, hlinting, hcheck, hload, hcommand⟩ := checks_to_itself
  have ho : LogOutput.check homes output = .ok o := by
    decide +kernel
  have hlog : LogSettings.check homes logging = .ok log := by
    decide +kernel
  have hlint : LintSettings.check linting = .ok s := by rfl
  have hall : Settings.check homes given = .ok settings := by
    decide +kernel
  have hgiven : load situation.surroundings "/w" none [] given = .ok settings := by
    decide +kernel
  have hdefaults :
      load situation.surroundings (CommandLine.workspaceOf situation.surroundings a)
      (a.text? .config) []
      (.map []) = .ok {} := by
    decide +kernel
  have hrun : CommandLine.settingsOf situation a =
      .ok { linting := { arguments := "-Wno-WIDTH" } } := by
    obtain ⟨run, hoverlay, hsettings⟩ := hcommand situation a {} hdefaults
    rw [(hload _ gone _ _ _ _ _ hdefaults).2] at hoverlay
    rw [hsettings, ← Checked.ok.inj hoverlay]
    rfl
  exact ⟨⟨ho, hlog, hlint, hall, hgiven, hdefaults⟩, (houtput _ gone _ _ ho).1,
    (hlogging _ gone _ _ hlog).1,
    (hlinting _ _ hlint).1, (hcheck _ gone _ _ hall).1,
    (hload _ gone _ _ _ _ _ hgiven).2 { arguments := some " -Wno-WIDTH " }, hrun⟩

end Loaded

end HdlLint
