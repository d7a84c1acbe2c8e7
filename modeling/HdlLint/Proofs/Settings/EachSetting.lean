import HdlLint.Proofs.Settings.Sources

/-!
# Settings checked one by one

A source that holds nothing but sections is checked section by section, and each section
setting by setting.  So what the check gives is a function of the values that the source
gives to the settings, and it succeeds exactly if each of them is valid.

* `check_eq_checkEach`: the check of a source is that of its settings, one by one.
* `checkEach_eq_ok_iff`: it succeeds exactly if each setting takes its value.
* `takes_iff_of_prevails`: no setting takes a map, so what is merged into one does not
  count.
-/

namespace HdlLint

namespace Checked

variable {α β : Type}

theorem seq_eq_ok_iff
    {f : Checked (α → β)} {a : Checked α} {b : β} :
    f <*> a = .ok b ↔ ∃ (g : α → β) (x : α), f = .ok g ∧ a = .ok x ∧ g x = b := by
  change seq f a = .ok b ↔ _
  cases f <;> cases a <;> simp [seq]

theorem map_eq_ok_iff
    {f : α → β} {a : Checked α} {b : β} :
    f <$> a = .ok b ↔ ∃ x : α, a = .ok x ∧ f x = b := by
  change seq (.ok f) a = .ok b ↔ _
  cases a <;> simp [seq]

theorem inside_eq_ok_iff
    {step : Step} {c : Checked α} {a : α} :
    c.inside step = .ok a ↔ c = .ok a := by
  cases c <;> simp [inside]

/-- Independent checks of parts are those of the whole. -/
theorem inside_seq
    (step : Step) (f : Checked (α → β)) (a : Checked α) :
    (f <*> a).inside step = f.inside step <*> a.inside step := by
  change (seq f a).inside step = seq (f.inside step) (a.inside step)
  cases f <;> cases a <;> simp [seq, inside]

theorem inside_map
    (step : Step) (f : α → β) (a : Checked α) :
    (f <$> a).inside step = f <$> a.inside step := by
  change (seq (.ok f) a).inside step = seq (.ok f) (a.inside step)
  cases a <;> simp [seq, inside]

end Checked

namespace Settings

open Value (IsMap)

/-- The check of one setting, given the values of all. -/
def checkSetting {α : Type} (values : String → String → Option Value)
    (group name : String) (default : α)
    (check : Value → Checked α) : Checked α :=
  match values group name with
  | some v => ((check v).inside (.name name)).inside (.name group)
  | none => .ok default

/-- The check of all settings, one by one, given their values. -/
def checkEach (homes : Homes) (values : String → String → Option Value) :
    Checked Settings :=
  Settings.mk
    <$> (LogSettings.mk <$> checkSetting values "logging" "level" .info Check.level
      <*> checkSetting values "logging" "outputs" [{}]
        (Check.list (LogOutput.check homes)))
    <*> (LintSettings.mk <$> checkSetting values "linting" "path" "" Check.text
      <*> checkSetting values "linting" "arguments" "" Check.arguments
      <*> checkSetting values "linting" "run_at_file_location" false Check.bool
      <*> checkSetting values "linting" "use_wsl" false Check.bool
      <*> checkSetting values "linting" "timeout_sec" none Check.timeout)

/-- The setting is the checked value, or its default if there is none. -/
def Takes {α : Type} (value : Option Value) (default : α) (check : Value →
    Checked α) (a : α) : Prop :=
  match value with
  | some v => check v = .ok a
  | none => a = default

/-- Every setting is the checked value, or its default if there is none. -/
structure TakesEach (homes : Homes) (values : String → String → Option Value)
    (settings : Settings) : Prop where
  level : Takes (values "logging" "level") .info Check.level settings.logging.level
  outputs : Takes (values "logging" "outputs") [{}] (Check.list (LogOutput.check homes))
    settings.logging.outputs
  path : Takes (values "linting" "path") "" Check.text settings.linting.path
  arguments : Takes (values "linting" "arguments") "" Check.arguments
    settings.linting.arguments
  runAtFile : Takes (values "linting" "run_at_file_location") false Check.bool
    settings.linting.runAtFile
  useWsl : Takes (values "linting" "use_wsl") false Check.bool settings.linting.useWsl
  timeout : Takes (values "linting" "timeout_sec") none Check.timeout
    settings.linting.timeout

section Each

variable {α : Type} {values : String → String → Option Value} {group name : String}

theorem checkSetting_eq_ok_iff
    {default a : α} {check : Value → Checked α} :
    checkSetting values group name default check = .ok a ↔
      Takes (values group name) default check a := by
  unfold checkSetting Takes
  cases values group name with
  | none =>
      simp [eq_comm]
  | some v =>
      simp only [Checked.inside_eq_ok_iff]

/-- The settings are checked exactly if each of them takes its value. -/
theorem checkEach_eq_ok_iff
    {homes : Homes} {settings : Settings} :
    checkEach homes values = .ok settings ↔ TakesEach homes values settings := by
  simp only [checkEach, Checked.seq_eq_ok_iff, Checked.map_eq_ok_iff,
    checkSetting_eq_ok_iff]
  constructor
  · rintro ⟨_, _, ⟨_, ⟨_, _, ⟨level, hlevel, rfl⟩, houtputs, rfl⟩, rfl⟩,
      ⟨_, _, ⟨_, _, ⟨_, _, ⟨_, _, ⟨path, hpath, rfl⟩, harguments, rfl⟩, hrun, rfl⟩, hwsl,
        rfl⟩, htimeout, rfl⟩, rfl⟩
    exact ⟨hlevel, houtputs, hpath, harguments, hrun, hwsl, htimeout⟩
  · rintro ⟨hlevel, houtputs, hpath, harguments, hrun, hwsl, htimeout⟩
    exact ⟨_, _, ⟨_, ⟨_, _, ⟨_, hlevel, rfl⟩, houtputs, rfl⟩, rfl⟩,
      ⟨_, _, ⟨_, _, ⟨_, _, ⟨_, _, ⟨_, hpath, rfl⟩, harguments, rfl⟩, hrun, rfl⟩, hwsl,
        rfl⟩, htimeout, rfl⟩, rfl⟩

end Each

section Sections

variable {α : Type} {source v : Value} {group name : String}

/-- A setting of a section is checked as one of the source. -/
theorem field_inside
    (hv : source.field? group = some v)
    (name : String) (default : α) (check : Value → Checked α) :
    (Check.field v name default check).inside (.name group) =
      checkSetting (setting? source) group name default check := by
  have hsetting : setting? source group name = v.field? name := by
    rw [setting?, hv, Option.bind_some]
  rw [Check.field, checkSetting, hsetting]
  cases v.field? name with
  | none =>
      rfl
  | some x =>
      rfl

theorem checkSetting_of_none
    (hv : source.field? group = none)
    (name : String) (default : α) (check : Value → Checked α) :
    checkSetting (setting? source) group name default check = .ok default := by
  rw [checkSetting, setting?, hv, Option.bind_none]

theorem model_of_isMap
    (hv : v.IsMap)
    (name : String) (check : Value → Checked α) :
    Check.model name check v = check v := by
  obtain ⟨es, hes⟩ := hv
  rw [Check.model, hes]

/-- The check of a source that holds nothing but sections is that of its settings, one by
one. -/
theorem check_eq_checkEach
    (homes : Homes)
    (h : HoldsSections source) :
    Settings.check homes source = checkEach homes (setting? source) := by
  obtain ⟨entries, rfl, -⟩ := h.names
  rw [Settings.check, model_of_isMap ⟨entries, rfl⟩, checkEach]
  refine congrArg₂ (· <*> ·) (congrArg (Settings.mk <$> ·) ?_) ?_
  · rw [Check.field]
    cases hv : (Value.map entries).field? "logging" with
    | none =>
        simp only [checkSetting_of_none hv]
        rfl
    | some v =>
        simp only
        rw [LogSettings.check, model_of_isMap (h.sections _ v hv),
          Checked.inside_seq, Checked.inside_map,
          field_inside hv, field_inside hv]
  · rw [Check.field]
    cases hv : (Value.map entries).field? "linting" with
    | none =>
        simp only [checkSetting_of_none hv]
        rfl
    | some v =>
        simp only
        rw [LintSettings.check, model_of_isMap (h.sections _ v hv),
          Checked.inside_seq, Checked.inside_seq,
          Checked.inside_seq, Checked.inside_seq, Checked.inside_map,
            field_inside hv, field_inside hv,
          field_inside hv, field_inside hv, field_inside hv]

/-- A source that holds nothing but sections has no entry that is not expected. -/
theorem checkSources_eq
    (homes : Homes)
    (h : HoldsSections source) :
    hasTextKeys source = true ∧
      checkSources homes source = Settings.check homes source := by
  obtain ⟨entries, rfl, hnames⟩ := h.names
  have hnone : unexpectedSections (.map entries) = [] := by
    rw [unexpectedSections, List.filterMap_eq_nil_iff]
    rintro ⟨k, v⟩ he
    obtain ⟨group, hgroup, rfl⟩ : ∃ group ∈ Environment.sections.map Prod.fst,
      k = .text group := hnames _ he
    have hknown : (Environment.sections.lookup group).isSome = true := by
      obtain ⟨section_, hmem, rfl⟩ := List.mem_map.mp hgroup
      exact List.lookup_isSome_iff.mpr ⟨section_, hmem, beq_self_eq_true _⟩
    simp only [hknown, if_true]
  constructor
  · rw [hasTextKeys, List.all_eq_true]
    rintro ⟨k, v⟩ he
    obtain ⟨group, -, rfl⟩ : ∃ group ∈ Environment.sections.map Prod.fst,
      k = .text group := hnames _ he
    rfl
  · rw [checkSources, hnone]

end Sections

section Maps

variable {α : Type} {v : Value}

/-- A check that takes no map. -/
def RefusesMaps (check : Value → Checked α) : Prop :=
  ∀ (v : Value) (a : α), v.IsMap → check v ≠ .ok a

theorem refusesMaps_of_constructors
    {check : Value → Checked α}
    (hmap : ∀ (es : List (Value × Value)) (a : α), check (.map es) ≠ .ok a)
    (hcycle : ∀ (label : Nat) (w : Value) (a : α), check (.cycle label w) ≠ .ok a) :
    RefusesMaps check := by
  rintro v a ⟨es, hes⟩
  cases v with
  | map es =>
      exact hmap es a
  | cycle label w =>
      exact hcycle label w a
  | _ => cases hes

theorem refusesMaps_among
    (options : List (String × α)) :
    RefusesMaps (Check.among options) :=
  refusesMaps_of_constructors (by rintro es a ⟨⟩) (by rintro label w a ⟨⟩)

theorem refusesMaps_text :
    RefusesMaps Check.text :=
  refusesMaps_of_constructors (by rintro es a ⟨⟩) (by rintro label w a ⟨⟩)

theorem refusesMaps_arguments :
    RefusesMaps Check.arguments :=
  refusesMaps_of_constructors (by rintro es a ⟨⟩) (by rintro label w a ⟨⟩)

theorem refusesMaps_bool :
    RefusesMaps Check.bool :=
  refusesMaps_of_constructors (by rintro es a ⟨⟩) (by rintro label w a ⟨⟩)

theorem refusesMaps_timeout :
    RefusesMaps Check.timeout :=
  refusesMaps_of_constructors (by rintro es a ⟨⟩) (by rintro label w a ⟨⟩)

theorem refusesMaps_list
    (check : Value → Checked α) :
    RefusesMaps (Check.list check) := by
  intro v a hv
  obtain ⟨es, hes⟩ := hv
  rw [Check.list, hes]
  rintro ⟨⟩

/-- What is merged into a map does not count: the map that wins is refused either way. -/
theorem takes_iff_of_prevails
    {layers : List (Option Value)} {shown : Option Value} {default a : α}
    {check : Value → Checked α}
    (hcheck : RefusesMaps check)
    (h : Prevails layers shown) :
    Takes shown default check a ↔ Takes (winning layers) default check a := by
  rcases h.eq_winning_or_isMap with rfl | ⟨winner, v, hwinning, hwinner, rfl, hv⟩
  · exact Iff.rfl
  · rw [hwinning]
    exact iff_of_false (hcheck v a hv) (hcheck winner a hwinner)

theorem TakesEach.imp
    {homes : Homes} {values values' : String → String → Option Value}
    {settings : Settings}
    (h : ∀ (group name : String) {α : Type} (default a : α) (check : Value → Checked α),
      RefusesMaps check →
      Takes (values group name) default check a →
        Takes (values' group name) default check a)
    (htakes : TakesEach homes values settings) :
    TakesEach homes values' settings where
  level := h _ _ _ _ _ (refusesMaps_among _) htakes.level
  outputs := h _ _ _ _ _ (refusesMaps_list _) htakes.outputs
  path := h _ _ _ _ _ refusesMaps_text htakes.path
  arguments := h _ _ _ _ _ refusesMaps_arguments htakes.arguments
  runAtFile := h _ _ _ _ _ refusesMaps_bool htakes.runAtFile
  useWsl := h _ _ _ _ _ refusesMaps_bool htakes.useWsl
  timeout := h _ _ _ _ _ refusesMaps_timeout htakes.timeout

/-- The settings taken from what prevails are those taken from the winning values. -/
theorem takesEach_iff_of_prevails
    {homes : Homes} {layers : String → String → List (Option Value)}
    {shown : String → String → Option Value}
    {settings : Settings}
    (h : ∀ group name : String, Prevails (layers group name) (shown group name)) :
    TakesEach homes shown settings ↔
      TakesEach homes (fun group name => winning (layers group name)) settings := by
  constructor
  · exact TakesEach.imp fun group name _ _ _ _ hcheck =>
      (takes_iff_of_prevails hcheck (h group name)).mp
  · exact TakesEach.imp fun group name _ _ _ _ hcheck =>
      (takes_iff_of_prevails hcheck (h group name)).mpr

end Maps

end Settings
end HdlLint
