import HdlLint.Proofs.Settings.EachSetting
import HdlLint.Proofs.Settings.LoadStages
import HdlLint.Proofs.Value.Equality

/-!
# Precedence of sources

Settings are loaded from five sources.  From the highest to the lowest they are the values
given directly, variables, a file asked for, the file of the workspace and the file of the
user.  For each setting the highest source that gives it a value wins.  What the others
give to it does not count, whether it would be valid or not, save that a map that wins is
deeply merged with the maps below it, and the outcome of this is what refusing it shows.

* `Sources.prevails_merged`: what the merged sources hold.
* `Sources.merged?_isSome_of_acyclic`: sources of which none contains itself can be
  merged.
* `load_eq_of_merged`: loading is checking what the merged sources hold.
* `load_precedence`: loading succeeds exactly if each winning value is valid, and takes it
  then.
-/

namespace HdlLint
namespace Settings

open Value (textKeys)

/-- What settings are loaded from, the files as the maps that they hold. -/
structure Sources where
  user : Value
  workspace : Value
  /-- The map of the file asked for, which is empty if none is. -/
  asked : Value
  environment : List (String × String)
  given : Value

namespace Sources

/-- What each source gives to a setting, the highest one first.  A value given directly
takes the place of the text of a variable before anything is merged. -/
def layers (x : Sources) (group name : String) : List (Option Value) :=
  [(setting? x.given group name).or (variableSetting? x.environment group name),
    setting? x.asked group name,
    setting? x.workspace group name, setting? x.user group name]

/-- The value that wins for a setting. -/
def winner (x : Sources) (group name : String) : Option Value :=
  winning (x.layers group name)

/-- The sources merged into one, unless that does not end. -/
def merged? (x : Sources) (room : String → Nat) : Option Value := do
  let lower ← x.user.merge? x.workspace
  let files ← lower.merge? x.asked
  let sections ← (Environment.sectionsOfVariables room x.environment).toOption
  files.merge? (sections.merge (respellSections x.given))

/-- The sources hold nothing but sections: the files any, variables only single settings
of how the linter is run, and what is given directly only that section. -/
structure HoldSections (x : Sources) : Prop where
  user : HoldsSections x.user
  workspace : HoldsSections x.workspace
  asked : HoldsSections x.asked
  environment : Environment.LeafVariables x.environment
  given : GivesLinting x.given

end Sources

/-- The maps of the sources are those that the files hold. -/
structure Sources.ReadFrom (x : Sources) (s : Surroundings) (root : String)
    (extra : Option String) : Prop where
  user : loadFile s s.userFile = .ok x.user
  workspace : loadFile s (workspacePath root) = .ok x.workspace
  asked : loadAsked s extra = .ok x.asked

section Merging

variable {x : Sources}

theorem distinctKeys_loadAsked
    {s : Surroundings} {extra : Option String} {v : Value}
    (h : loadAsked s extra = .ok v) :
    v.DistinctKeys := by
  cases extra with
  | none =>
      cases h
      exact ⟨List.nodup_nil, trivial⟩
  | some path =>
      rw [loadAsked] at h
      split at h
      · cases h
      · exact distinctKeys_loadFile h

/-- The merged sources hold nothing but sections, and each setting is what prevails of the
values for it. -/
theorem Sources.prevails_merged
    {s : Surroundings} {root : String} {extra : Option String}
    {room : String → Nat} {v : Value}
    (hread : x.ReadFrom s root extra)
    (hsections : x.HoldSections)
    (hmerged : x.merged? room = some v) :
    HoldsSections v ∧ ∀ group name : String,
      Prevails (x.layers group name) (setting? v group name) := by
  obtain ⟨lower, hlower, hmerged⟩ := Option.bind_eq_some_iff.mp hmerged
  obtain ⟨files, hfiles, hmerged⟩ := Option.bind_eq_some_iff.mp hmerged
  obtain ⟨sections, hvariables, -, hgives, hgiven⟩ :=
    setting?_given_over_variables room hsections.environment hsections.given
  obtain ⟨sections', hsections', hmerged⟩ := Option.bind_eq_some_iff.mp hmerged
  rw [hvariables] at hsections'
  obtain rfl := Option.some.inj hsections'
  obtain ⟨hholds₁, hover₁⟩ := overrides_merge? hsections.user hsections.workspace
    (keysOnce_of_distinctKeys (distinctKeys_loadFile hread.workspace)) hlower
  obtain ⟨hholds₂, hover₂⟩ := overrides_merge? hholds₁ hsections.asked
    (keysOnce_of_distinctKeys (distinctKeys_loadAsked hread.asked)) hfiles
  obtain ⟨hholds₃, hover₃⟩ :=
    overrides_merge? hholds₂ hgives.holdsSections hgives.keysOnce hmerged
  refine ⟨hholds₃, ?_⟩
  intro group name
  have huser := Prevails.nothing.laid (Overrides.of_none (setting? x.user group name))
  have hfiles' := (huser.laid (hover₁ group name)).laid (hover₂ group name)
  have hall := hfiles'.laid (hover₃ group name)
  rwa [hgiven] at hall

/-- Sources of which none contains itself can be merged. -/
theorem Sources.merged?_isSome_of_acyclic
    {room : String → Nat}
    (hsections : x.HoldSections)
    (huser : x.user.hasCycle = false)
    (hworkspace : x.workspace.hasCycle = false)
    (hasked : x.asked.hasCycle = false)
    (hgiven : x.given.hasCycle = false) :
    (x.merged? room).isSome = true := by
  obtain ⟨sections, hvariables, hvariables', -⟩ :=
    setting?_given_over_variables room hsections.environment hsections.given
  obtain ⟨lower, hlower, hlower'⟩ := Value.merge?_of_acyclic huser hworkspace
  obtain ⟨files, hfiles, hfiles'⟩ := Value.merge?_of_acyclic hlower' hasked
  have hlast : (sections.merge (respellSections x.given)).hasCycle = false := by
    rw [respellSections_of_givesLinting hsections.given]
    exact Value.hasCycle_overlay _ (by rintro o ⟨⟩; exact hvariables') _ hgiven
  obtain ⟨v, hv, -⟩ := Value.merge?_of_acyclic hfiles' hlast
  have hmerged : x.merged? room = some v := by
    rw [Sources.merged?, hlower]
    simp only [Option.bind_eq_bind, Option.bind_some, hfiles,
      hvariables, Except.toOption, hv]
  rw [hmerged]
  rfl

end Merging

section Loading

variable {s : Surroundings} {root : String} {extra : Option String} {x : Sources}

/-- Loading is checking what the merged sources hold. -/
theorem load_eq_of_merged
    {v : Value}
    (hread : x.ReadFrom s root extra)
    (hmerged : x.merged? s.variableRoom = some v) :
    load s root extra x.environment x.given = conclude s.homes v := by
  obtain ⟨lower, hlower, hmerged⟩ := Option.bind_eq_some_iff.mp hmerged
  obtain ⟨files, hfiles, hmerged⟩ := Option.bind_eq_some_iff.mp hmerged
  obtain ⟨sections, hsections, hmerged⟩ := Option.bind_eq_some_iff.mp hmerged
  cases hvariables : Environment.sectionsOfVariables s.variableRoom x.environment with
  | error c =>
      rw [hvariables] at hsections
      cases hsections
  | ok sections' =>
      rw [hvariables] at hsections
      obtain rfl := Option.some.inj hsections
      rw [load_eq, hread.user, hread.workspace, hread.asked, hvariables]
      simp only [Except.bind, bind, Except.mapError, layer, hlower, hfiles, hmerged]

/-- The sources win setting by setting.  Loading is checking, for each setting, the value
that prevails; it succeeds exactly if each winning value is valid, and then each setting
is what its winning value is checked to be. -/
theorem load_precedence
    (hread : x.ReadFrom s root extra)
    (hsections : x.HoldSections)
    (hends : (x.merged? s.variableRoom).isSome = true) :
    (∀ settings : Settings,
      load s root extra x.environment x.given = .ok settings ↔
        TakesEach s.homes x.winner settings) ∧
    ∃ shown : String → String → Option Value,
      (∀ group name : String, Prevails (x.layers group name) (shown group name)) ∧
      load s root extra x.environment x.given = outcome (checkEach s.homes shown) := by
  obtain ⟨v, hmerged⟩ := Option.isSome_iff_exists.mp hends
  obtain ⟨hholds, hprevails⟩ := Sources.prevails_merged hread hsections hmerged
  obtain ⟨hkeys, hcheck⟩ := checkSources_eq s.homes hholds
  have hload : load s root extra x.environment x.given =
      outcome (checkEach s.homes (setting? v)) := by
    rw [load_eq_of_merged hread hmerged, conclude, if_pos hkeys, hcheck,
      check_eq_checkEach s.homes hholds]
  refine ⟨?_, setting? v, hprevails, hload⟩
  intro settings
  have hok :
      load s root extra x.environment x.given = .ok settings ↔
        checkEach s.homes (setting? v) = .ok settings := by
    rw [hload]
    cases checkEach s.homes (setting? v) <;> simp [outcome]
  rw [hok, checkEach_eq_ok_iff]
  exact takesEach_iff_of_prevails hprevails

instance {α : Type} [DecidableEq α] (value : Option Value) (default : α)
    (check : Value → Checked α) (a : α) :
    Decidable (Takes value default check a) :=
  match value with
  | some v => inferInstanceAs (Decidable (check v = .ok a))
  | none => inferInstanceAs (Decidable (a = default))

/-- A value that would be refused stays hidden below a valid one, and each source wins
where it is the highest. -/
theorem load_precedence_hidden :
    load (twoFiles "linting: {path: {a: 1}, timeout_sec: no}"
      "linting: {path: /ws, arguments: -Wall, timeout_sec: 5}")
        "/ws" none [("HOME", "/home/user"), ("Verilint__Linting__PATH", "/env")]
        (.map [(.text "linting", .map [(.text "use_wsl", .bool true)])]) =
      .ok { linting := {
        path := "/env", arguments := "-Wall", useWsl := true,
        timeout := some (.ofInt 5) } } := by
  let x : Sources := {
    user := .map
      [(.text "linting",
        .map [(.text "path", .map [(.text "a", .int 1)]),
          (.text "timeout_sec", .bool false)])]
    workspace := .map [(.text "linting",
      .map [(.text "path", .text "/ws"), (.text "arguments", .text "-Wall"),
        (.text "timeout_sec", .int 5)])]
    asked := .map []
    environment := [("HOME", "/home/user"), ("Verilint__Linting__PATH", "/env")]
    given := .map [(.text "linting", .map [(.text "use_wsl", .bool true)])] }
  have hread : x.ReadFrom
      (twoFiles "linting: {path: {a: 1}, timeout_sec: no}"
        "linting: {path: /ws, arguments: -Wall, timeout_sec: 5}")
      "/ws" none := ⟨by decide +kernel, by decide +kernel, rfl⟩
  have hsections : x.HoldSections := by
    refine ⟨GivesLinting.holdsSections (Or.inr ⟨_, rfl, by decide⟩),
      GivesLinting.holdsSections (Or.inr ⟨_, rfl, by decide⟩),
        GivesLinting.holdsSections (Or.inl rfl), ?_,
      Or.inr ⟨_, rfl, by decide⟩⟩
    intro v hv hstart
    rcases List.mem_pair.mp hv with rfl | rfl
    · exact absurd hstart (by decide +kernel)
    · exact ⟨"path".toList, by decide +kernel, by decide⟩
  refine ((load_precedence hread hsections (by decide +kernel)).1 _).mpr ?_
  constructor <;> decide +kernel

/-- A map that wins is shown merged with the map below it, though both loads have the same
winning values. -/
theorem map_below_is_shown :
    ∃ x x' : Sources,
      x.ReadFrom (twoFiles "linting: {path: {a: 1}}" "linting: {path: {b: 2}}") "/ws"
        none ∧
      x'.ReadFrom (twoFiles "" "linting: {path: {b: 2}}") "/ws" none ∧
      x.HoldSections ∧ x'.HoldSections ∧
      (∀ room : String → Nat, (x.merged? room).isSome = true ∧
        (x'.merged? room).isSome = true) ∧
      (∀ group name : String, x.winner group name = x'.winner group name) ∧
      load (twoFiles "linting: {path: {a: 1}}" "linting: {path: {b: 2}}") "/ws" none
        x.environment x.given =
        .error (.fault
          (.invalidValue "linting.path" (.map [(.text "a", .int 1), (.text "b", .int 2)])
          "Input should be a valid string")) ∧
      load (twoFiles "" "linting: {path: {b: 2}}") "/ws" none x'.environment x'.given =
        .error (.fault
          (.invalidValue "linting.path"
            (.map [(.text "b", .int 2)]) "Input should be a valid string")) := by
  have hlinting : ∀ es : List (Value × Value), (textKeys es).Nodup →
      HoldsSections (.map [(.text "linting", .map es)]) :=
    fun es hes => GivesLinting.holdsSections (Or.inr ⟨es, rfl, hes⟩)
  have hnothing : HoldsSections (.map []) := GivesLinting.holdsSections (Or.inl rfl)
  have hnone : Environment.LeafVariables [] := fun v hv => absurd hv List.not_mem_nil
  refine ⟨⟨.map [(.text "linting", .map [(.text "path", .map [(.text "a", .int 1)])])],
      .map [(.text "linting", .map [(.text "path", .map [(.text "b", .int 2)])])],
        .map [], [], .map []⟩,
    ⟨.map [], .map [(.text "linting", .map [(.text "path", .map [(.text "b", .int 2)])])],
      .map [], [], .map []⟩,
    ⟨by decide +kernel, by decide +kernel, rfl⟩,
      ⟨by decide +kernel, by decide +kernel, rfl⟩,
    ⟨hlinting _ (by decide), hlinting _ (by decide), hnothing, hnone, Or.inl rfl⟩,
    ⟨hnothing, hlinting _ (by decide), hnothing, hnone, Or.inl rfl⟩,
      fun room => ⟨rfl, rfl⟩, ?_,
    by decide +kernel, by decide +kernel⟩
  intro group name
  have hempty : setting? (.map []) group name = none := rfl
  have hvariable : variableSetting? [] group name = none := by
    rw [variableSetting?]
    split <;> rfl
  simp only [Sources.winner, Sources.layers, winning, setting?_linting, hempty,
    hvariable, Option.or_none]
  by_cases hgroup : group = "linting"
  · simp only [if_pos hgroup, Value.lookup?]
    split <;> rfl
  · simp only [if_neg hgroup]

end Loading

end Settings
end HdlLint
