import HdlLint.Proofs.Settings.CheckCrashes
import HdlLint.Proofs.Settings.LegibleSources
import HdlLint.Proofs.Value.Equality

/-!
# Crashes of loading

Loading settings gives them, or a fault that says what is wrong with them, or it crashes.
`LoadCrash` lists all ways to crash: a file that is a folder, that is no text or whose
document cannot be made into values; a variable that has to be JSON and is not, or nests
too deep; a key of a file that is no text; an output of the log in a home folder that is
not known; and a fault in which a number is too long to be written.

* `loadFile_eq_crash_iff`: when reading a file crashes.
* `SourcesMerged.hasOtherKey_iff`: keys that are no texts come from the files.
* `conclude_eq_crash_iff`: when the last stage crashes.
* `load_crashes_iff`: loading legible sources crashes in these ways and in no other.
-/

namespace HdlLint
namespace Settings

open Environment (VariablesCrash sectionsOfVariables)

/-- The crash of a key that is no text. -/
def otherKey : Crash :=
  .of .type "keywords must be strings"

/-- The ways in which reading a file crashes. -/
inductive FileCrash (s : Surroundings) (path : String) : Crash → Prop
  | folder
      {place : List String}
      (hfind : s.tree.find s.folder path = .found place .folder) :
      FileCrash s path (.of .isFolder "Is a directory")
  | encoding
      {place : List String} {bytes : List UInt8} {f : Text.Utf8.Fault}
      (hfind : s.tree.find s.folder path = .found place (.file bytes))
      (hdecode : Text.Utf8.decodeBlocks bytes = .error f) :
      FileCrash s path (.of .unicode f.message)
  | document
      {place : List String} {bytes : List UInt8} {text : String} {c : Crash}
      (hfind : s.tree.find s.folder path = .found place (.file bytes))
      (hdecode : Text.Utf8.decodeBlocks bytes = .ok text)
      (hread : Yaml.readDocument (s.documentRoom path)
        (String.ofList (Text.unifyLineEnds text.toList)) =
        .error (.crash c)) :
      FileCrash s path c

/-- Some key of a map is no text. -/
def HasOtherKey (source : Value) : Prop :=
  ∃ entries : List (Value × Value), source = .map entries ∧ ∃ e ∈ entries,
    e.1.text? = none

/-- The maps of the files, and what they are merged into. -/
structure FilesMerged (s : Surroundings) (root : String) (extra : Option String)
    (user workspace asked files : Value) :
    Prop where
  readUser : loadFile s s.userFile = .ok user
  readWorkspace : loadFile s (workspacePath root) = .ok workspace
  readAsked : loadAsked s extra = .ok asked
  merges : ∃ lower : Value, user.merge? workspace = some lower ∧
    lower.merge? asked = some files

/-- The maps of the files, and what they and the variables are merged into. -/
def SourcesMerged (s : Surroundings) (root : String) (extra : Option String)
    (environment : List (String × String))
    (user workspace asked sources : Value) : Prop :=
  ∃ files sections : Value, FilesMerged s root extra user workspace asked files ∧
    sectionsOfVariables s.variableRoom environment = .ok sections ∧
      files.merge? sections = some sources

/-- The ways in which loading crashes. -/
inductive LoadCrash (s : Surroundings) (root : String) (extra : Option String)
    (environment : List (String × String)) :
    Crash → Prop
  | user
      {c : Crash}
      (h : FileCrash s s.userFile c) :
      LoadCrash s root extra environment c
  | workspace
      {user : Value} {c : Crash}
      (huser : loadFile s s.userFile = .ok user)
      (h : FileCrash s (workspacePath root) c) :
      LoadCrash s root extra environment c
  | asked
      {user workspace : Value} {path : String} {c : Crash}
      (huser : loadFile s s.userFile = .ok user)
      (hworkspace : loadFile s (workspacePath root) = .ok workspace)
      (hextra : extra = some path)
      (hfile : (s.tree.file? s.folder
        (String.ofList (Path.Posix.tidy path.toList))).isSome = true)
      (h : FileCrash s (String.ofList (Path.Posix.tidy path.toList)) c) :
      LoadCrash s root extra environment c
  | sections
      {user workspace asked files : Value} {c : Crash}
      (hfiles : FilesMerged s root extra user workspace asked files)
      (h : VariablesCrash s.variableRoom environment c) :
      LoadCrash s root extra environment c
  | key
      {user workspace asked sources : Value}
      (hsources : SourcesMerged s root extra environment user workspace asked sources)
      (h : HasOtherKey user ∨ HasOtherKey workspace ∨ HasOtherKey asked) :
      LoadCrash s root extra environment otherKey
  | home
      {user workspace asked sources : Value} {path : String}
      (hsources : SourcesMerged s root extra environment user workspace asked sources)
      (hkeys : ¬ (HasOtherKey user ∨ HasOtherKey workspace ∨ HasOtherKey asked))
      (hsends : SendsTo sources path)
      (h : NamesUnknownHome s.homes path) :
      LoadCrash s root extra environment Check.unknownHome
  | longNumber
      {user workspace asked sources : Value} {i : Issue} {rest : List Issue}
      (hsources : SourcesMerged s root extra environment user workspace asked sources)
      (hkeys : ¬ (HasOtherKey user ∨ HasOtherKey workspace ∨ HasOtherKey asked))
      (hcheck : checkSources s.homes sources = .invalid (i :: rest))
      (h : i.input.hasLongInt = true) :
      LoadCrash s root extra environment (.of .value (Text.tooLongMessage ""))

section Files

variable {s : Surroundings} {path : String} {c : Crash}

/-- Reading a file crashes in these ways only. -/
theorem loadFile_eq_crash_iff :
    loadFile s path = .error (.crash c) ↔ FileCrash s path c := by
  rw [loadFile]
  constructor
  · intro h
    split at h
    · rename_i place bytes hfind
      split at h
      · rename_i f hdecode
        cases h
        exact .encoding hfind hdecode
      · rename_i text hdecode
        rw [mapOfDocument] at h
        split at h
        · cases h
        · rename_i c' hread
          cases h
          exact .document hfind hdecode hread
        · split at h
          · cases h
          · split at h <;> cases h
    · rename_i place hfind
      cases h
      exact .folder hfind
    · cases h
  · rintro (⟨hfind⟩ | ⟨hfind, hdecode⟩ | ⟨hfind, hdecode, hread⟩)
    · rw [hfind]
    · rw [hfind]
      simp only [hdecode]
    · rw [hfind]
      simp only [hdecode, mapOfDocument, hread]

theorem loadAsked_eq_crash_iff
    {extra : Option String} :
    loadAsked s extra = .error (.crash c) ↔
      ∃ path : String, extra = some path ∧
        (s.tree.file? s.folder (String.ofList (Path.Posix.tidy path.toList))).isSome =
          true ∧
        FileCrash s (String.ofList (Path.Posix.tidy path.toList)) c := by
  cases extra with
  | none =>
      simp [loadAsked]
  | some path =>
      simp only [loadAsked, Option.some.injEq, exists_eq_left', ← loadFile_eq_crash_iff]
      split
      · rename_i hnone
        refine iff_of_false (by rintro ⟨⟩) ?_
        rintro ⟨hsome, -⟩
        rw [Option.isNone_iff_eq_none] at hnone
        rw [hnone] at hsome
        cases hsome
      · rename_i hsome
        rw [Bool.not_eq_true, Option.isNone_eq_false_iff] at hsome
        exact ⟨fun h => ⟨hsome, h⟩, fun h => h.2⟩

theorem layer_eq_ok_iff
    {base override v : Value} :
    layer base override = .ok v ↔ base.merge? override = some v := by
  rw [layer]
  cases base.merge? override <;> simp

end Files

section Keys

theorem hasTextKeys_eq_false_iff
    {es : List (Value × Value)} :
    hasTextKeys (.map es) = false ↔ HasOtherKey (.map es) := by
  rw [hasTextKeys, List.all_eq_false]
  constructor
  · rintro ⟨⟨k, v⟩, he, hk⟩
    refine ⟨es, rfl, ⟨k, v⟩, he, ?_⟩
    cases k with
    | text s =>
        exact absurd rfl hk
    | _ => rfl
  · rintro ⟨_, ⟨⟩, ⟨k, v⟩, he, hk⟩
    refine ⟨⟨k, v⟩, he, ?_⟩
    cases k with
    | text s =>
        cases hk
    | _ => exact Bool.false_ne_true

/-- Merged maps have a key that is no text if one of them has. -/
theorem hasOtherKey_merge?
    {bs es : List (Value × Value)} {v : Value}
    (h : (Value.map bs).merge? (.map es) = some v) :
    HasOtherKey v ↔ HasOtherKey (.map bs) ∨ HasOtherKey (.map es) := by
  have hsame : ∀ a b : Value, Value.sameKey a b = true →
      (a.text? = none ↔ b.text? = none) := by
    intro a b hab
    constructor
    · intro ha
      by_contra hb
      obtain ⟨s, hs⟩ := Option.ne_none_iff_exists'.mp hb
      obtain rfl := Value.text?_eq_some_iff.mp hs
      rw [Value.sameKey_text_right.mp hab] at ha
      cases ha
    · intro hb
      by_contra ha
      obtain ⟨s, hs⟩ := Option.ne_none_iff_exists'.mp ha
      obtain rfl := Value.text?_eq_some_iff.mp hs
      rw [Value.sameKey_text_left.mp hab] at hb
      cases hb
  have hmap : ∀ es : List (Value × Value), HasOtherKey (.map es) ↔ ∃ e ∈ es,
      e.1.text? = none := by
    intro es
    exact ⟨fun ⟨_, heq, he⟩ => by cases heq; exact he, fun he => ⟨es, rfl, he⟩⟩
  obtain ⟨rs, combined, rfl, hentries, -⟩ := (Value.merged_of_merge? h).entries rfl rfl
  rw [hmap, hmap, hmap]
  exact hentries.exists_key_iff hsame

end Keys

section Loading

variable {s : Surroundings} {root : String} {extra : Option String}
  {environment : List (String × String)} {c : Crash}
  {user workspace asked files sources : Value}

theorem FilesMerged.hasOtherKey_iff
    (h : FilesMerged s root extra user workspace asked files) :
    (∃ es : List (Value × Value), files = .map es) ∧
      (HasOtherKey files ↔ HasOtherKey user ∨ HasOtherKey workspace ∨
        HasOtherKey asked) := by
  obtain ⟨lower, hlower, hfiles⟩ := h.merges
  obtain ⟨us, rfl⟩ := loadFile_eq_map h.readUser
  obtain ⟨ws, rfl⟩ := loadFile_eq_map h.readWorkspace
  obtain ⟨as, rfl⟩ := loadAsked_eq_map h.readAsked
  obtain ⟨ls, rfl⟩ := layer_eq_map (layer_eq_ok_iff.mpr hlower)
  refine ⟨layer_eq_map (layer_eq_ok_iff.mpr hfiles), ?_⟩
  rw [hasOtherKey_merge? hfiles, hasOtherKey_merge? hlower, or_assoc]

/-- Variables have textual keys only, so all other keys come from the files. -/
theorem SourcesMerged.hasOtherKey_iff
    (h : SourcesMerged s root extra environment user workspace asked sources) :
    (∃ es : List (Value × Value), sources = .map es) ∧
      (HasOtherKey sources ↔ HasOtherKey user ∨ HasOtherKey workspace ∨
        HasOtherKey asked) := by
  obtain ⟨files, sections, hfiles, hsections, hsources⟩ := h
  obtain ⟨⟨fs, rfl⟩, hkeys⟩ := hfiles.hasOtherKey_iff
  obtain ⟨vs, rfl, -, htexts⟩ := Environment.sectionsOfVariables_eq_map hsections
  have hnone : ¬ HasOtherKey (.map vs) := by
    rintro ⟨_, ⟨⟩, e, he, hkey⟩
    obtain ⟨t, ht⟩ := htexts e he
    rw [ht] at hkey
    cases hkey
  refine ⟨layer_eq_map (layer_eq_ok_iff.mpr hsources), ?_⟩
  rw [hasOtherKey_merge? hsources, hkeys, or_iff_left hnone]

/-- The last stage crashes on a key that is no text, on an output in a home folder that is
not known, or on a number that is too long to be written. -/
theorem conclude_eq_crash_iff
    {homes : Homes} {es : List (Value × Value)} :
    conclude homes (.map es) = .error (.crash c) ↔
      (HasOtherKey (.map es) ∧ c = otherKey) ∨
        (¬ HasOtherKey (.map es) ∧
          ((c = Check.unknownHome ∧ ∃ path : String, SendsTo (.map es) path ∧
            NamesUnknownHome homes path) ∨
            ∃ (i : Issue) (rest : List Issue), checkSources homes (.map es) =
              .invalid (i :: rest) ∧
              i.input.hasLongInt = true ∧ c = .of .value (Text.tooLongMessage ""))) := by
  rw [conclude, ← hasTextKeys_eq_false_iff, ← check_eq_crashed_iff,
    ← checkSources_eq_crashed_iff]
  cases hasTextKeys (.map es) with
  | false =>
      simp only [Bool.false_eq_true, if_false, true_and, not_true, false_and, or_false]
      exact ⟨fun h => by cases h; rfl, fun h => by rw [h]; rfl⟩
  | true =>
      simp only [if_true, Bool.true_eq_false, false_and, false_or,
        not_false_eq_true, true_and]
      cases checkSources homes (.map es) with
      | ok settings =>
          simp [outcome]
      | crashed c' =>
          simp [outcome]
      | invalid issues =>
          cases issues with
          | nil =>
              simp [outcome, stopOfIssues]
          | cons i rest =>
              rw [outcome, stopOfIssues, stopOfIssue]
              cases hlong : i.input.hasLongInt with
              | false =>
                  simp [hlong]
              | true =>
                  constructor
                  · rintro ⟨⟩
                    exact Or.inr ⟨i, rest, rfl, hlong, rfl⟩
                  · rintro (⟨⟨⟩⟩ | ⟨_, _, ⟨⟩, -, rfl⟩)
                    rfl

/-- If the files can be read and merged, variables come next. -/
theorem FilesMerged.load_eq
    (h : FilesMerged s root extra user workspace asked files) :
    load s root extra environment (.map []) = (do
      let sections ← (sectionsOfVariables s.variableRoom environment).mapError .crash
      let sources ← layer files sections
      conclude s.homes sources) := by
  obtain ⟨lower, hlower, hfiles⟩ := h.merges
  rw [Settings.load_eq, h.readUser, h.readWorkspace, h.readAsked]
  simp only [Except.bind, bind, layer_eq_ok_iff.mpr hlower, layer_eq_ok_iff.mpr hfiles]
  cases hsections : sectionsOfVariables s.variableRoom environment with
  | error c =>
      rfl
  | ok sections =>
      obtain ⟨vs, rfl, -⟩ := Environment.sectionsOfVariables_eq_map hsections
      rfl

/-- If the sources can be merged, only the last stage is left. -/
theorem SourcesMerged.load_eq
    (h : SourcesMerged s root extra environment user workspace asked sources) :
    load s root extra environment (.map []) = conclude s.homes sources := by
  obtain ⟨files, sections, hfiles, hsections, hsources⟩ := h
  rw [hfiles.load_eq, hsections]
  simp only [Except.mapError, Except.bind, bind, layer_eq_ok_iff.mpr hsources]

/-- Crashes of the last stage are among those listed. -/
theorem loadCrash_of_sourcesMerged
    (h : SourcesMerged s root extra environment user workspace asked sources)
    (hload : load s root extra environment (.map []) = .error (.crash c)) :
    LoadCrash s root extra environment c := by
  obtain ⟨⟨es, rfl⟩, hkeys⟩ := h.hasOtherKey_iff
  rw [h.load_eq, conclude_eq_crash_iff, hkeys] at hload
  rcases hload with
    ⟨hother, rfl⟩ | ⟨hno, ⟨rfl, path, hsends, hnames⟩ | ⟨i, rest, hcheck, hlong, rfl⟩⟩
  · exact .key h hother
  · exact .home h hno hsends hnames
  · exact .longNumber h hno hcheck hlong

/-- The maps of the user and of the workspace can be merged. -/
theorem LegibleSources.lowerMerged
    (h : LegibleSources s root extra environment)
    (huser : loadFile s s.userFile = .ok user)
    (hworkspace : loadFile s (workspacePath root) = .ok workspace) :
    ∃ lower : Value, user.merge? workspace = some lower ∧ lower.hasCycle = false :=
  Value.merge?_of_acyclic (loadFile_fits h.user huser).acyclic
    (loadFile_fits h.workspace hworkspace).acyclic

/-- Legible files can be merged, if they can be read. -/
theorem LegibleSources.filesMerged
    (h : LegibleSources s root extra environment)
    (huser : loadFile s s.userFile = .ok user)
    (hworkspace : loadFile s (workspacePath root) = .ok workspace)
    (hasked : loadAsked s extra = .ok asked) :
    ∃ files : Value, FilesMerged s root extra user workspace asked files := by
  obtain ⟨lower, hlower, hacyclic⟩ := h.lowerMerged huser hworkspace
  obtain ⟨files, hfiles, -⟩ :=
    Value.merge?_of_acyclic hacyclic (loadAsked_fits h.asked hasked).acyclic
  exact ⟨files, huser, hworkspace, hasked, lower, hlower, hfiles⟩

/-- Loading crashes in the listed ways and in no other. -/
theorem load_eq_crash_iff
    (h : LegibleSources s root extra environment) :
    load s root extra environment (.map []) = .error (.crash c) ↔
      LoadCrash s root extra environment c := by
  constructor
  · intro hload
    have hstages := hload
    rw [Settings.load_eq] at hstages
    rcases exceptBind_eq_error_iff.mp hstages with huser | ⟨user, huser, hstages⟩
    · exact .user (loadFile_eq_crash_iff.mp huser)
    rcases exceptBind_eq_error_iff.mp hstages with
      hworkspace | ⟨workspace, hworkspace, hstages⟩
    · exact .workspace huser (loadFile_eq_crash_iff.mp hworkspace)
    obtain ⟨lower, hlower, -⟩ := h.lowerMerged huser hworkspace
    rw [layer_eq_ok_iff.mpr hlower] at hstages
    rcases exceptBind_eq_error_iff.mp hstages with ⟨⟨⟩⟩ | ⟨lower', -, hstages⟩
    rcases exceptBind_eq_error_iff.mp hstages with hasked | ⟨asked, hasked, -⟩
    · obtain ⟨path, hextra, hfile, hcrash⟩ := loadAsked_eq_crash_iff.mp hasked
      exact .asked huser hworkspace hextra hfile hcrash
    obtain ⟨files, hmerged⟩ := h.filesMerged huser hworkspace hasked
    cases hsections : sectionsOfVariables s.variableRoom environment with
    | error c' =>
        rw [hmerged.load_eq, hsections] at hload
        cases hload
        exact .sections hmerged
          (Environment.sectionsOfVariables_eq_error_iff.mp hsections)
    | ok sections =>
        obtain ⟨fs, rfl⟩ := hmerged.hasOtherKey_iff.1
        obtain ⟨sources, hsources⟩ :=
          @Environment.layer_sectionsOfVariables _ environment sections fs hsections
        exact loadCrash_of_sourcesMerged ⟨_, sections, hmerged, hsections,
          layer_eq_ok_iff.mp hsources⟩ hload
  · intro hcrash
    cases hcrash with
    | user hfile =>
        rw [Settings.load_eq, loadFile_eq_crash_iff.mpr hfile]
        rfl
    | workspace huser hfile =>
        rw [Settings.load_eq, huser, loadFile_eq_crash_iff.mpr hfile]
        rfl
    | asked huser hworkspace hextra hasked hfile =>
        obtain ⟨lower, hlower, -⟩ := h.lowerMerged huser hworkspace
        rw [Settings.load_eq, huser, hworkspace,
          loadAsked_eq_crash_iff.mpr ⟨_, hextra, hasked, hfile⟩]
        simp only [Except.bind, bind, layer_eq_ok_iff.mpr hlower]
    | sections hfiles hvariables =>
        rw [hfiles.load_eq, Environment.sectionsOfVariables_eq_error_iff.mpr hvariables]
        rfl
    | key hsources hother =>
        obtain ⟨⟨es, rfl⟩, hkeys⟩ := hsources.hasOtherKey_iff
        rw [hsources.load_eq, conclude_eq_crash_iff]
        exact Or.inl ⟨hkeys.mpr hother, rfl⟩
    | home hsources hno hsends hunknown =>
        obtain ⟨⟨es, rfl⟩, hkeys⟩ := hsources.hasOtherKey_iff
        rw [hsources.load_eq, conclude_eq_crash_iff]
        exact Or.inr ⟨mt hkeys.mp hno, Or.inl ⟨rfl, _, hsends, hunknown⟩⟩
    | longNumber hsources hno hcheck hlong =>
        obtain ⟨⟨es, rfl⟩, hkeys⟩ := hsources.hasOtherKey_iff
        rw [hsources.load_eq, conclude_eq_crash_iff]
        exact Or.inr ⟨mt hkeys.mp hno, Or.inr ⟨_, _, hcheck, hlong, rfl⟩⟩

end Loading

end Settings
end HdlLint
