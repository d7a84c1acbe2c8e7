import HdlLint.Proofs.Value.MergedMaps
import HdlLint.Settings.Load

/-!
# Stages of loading

Loading goes from stage to stage: the files are read and merged, then come variables and
the values given directly, and the last stage checks the outcome.  A file that is not
asked for counts as an empty one, so there is one chain of stages for all loads.

* `loadFile_eq_map`: a file that can be read holds a map.
* `load_eq`: loading is the chain of its stages.
-/

namespace HdlLint
namespace Settings

/-- The map of a file asked for, which has to be there.  No map is asked for if no file
is. -/
def loadAsked (s : Surroundings) : Option String → Except LoadStop Value
  | none => .ok (.map [])
  | some path =>
    let path := String.ofList (Path.Posix.tidy path.toList)
    if (s.tree.file? s.folder path).isNone then .error (.fault (.fileNotFound path))
      else loadFile s path

/-- What loading gives after the check. -/
def outcome : Checked Settings → Except LoadStop Settings
  | .ok settings => .ok settings
  | .invalid issues => .error (stopOfIssues issues)
  | .crashed c => .error (.crash c)

/-- The last stage: all keys have to be texts, and every setting is checked. -/
def conclude (homes : Homes) (sources : Value) : Except LoadStop Settings :=
  if hasTextKeys sources then outcome (checkSources homes sources)
  else .error (.crash (.of .type "keywords must be strings"))

/-- Surroundings with a file of the user and one of the workspace, where only the home
folder of the user is known. -/
def twoFiles (user workspace : String) : Surroundings where
  tree := ⟨[(["user"], .folder), (["user", "config.yaml"], .file user.toUTF8.toList),
    (["ws"], .folder),
    (["ws", ".verilint"], .folder),
      (["ws", ".verilint", "config.yaml"], .file workspace.toUTF8.toList)]⟩
  folder := []
  userFile := "/user/config.yaml"
  homes := .own "/home/user"
  documentRoom _ := 480
  variableRoom _ := 960

section Stages

variable {s : Surroundings} {root : String} {extra : Option String}

theorem loadFile_eq_map
    {path : String} {v : Value}
    (h : loadFile s path = .ok v) :
    ∃ es : List (Value × Value), v = .map es := by
  rw [loadFile] at h
  split at h
  · split at h
    · cases h
    · rw [mapOfDocument] at h
      split at h
      · cases h
      · cases h
      · split at h
        · cases h
          exact ⟨_, rfl⟩
        · split at h
          · cases h
          · cases h
            exact ⟨[], rfl⟩
  · cases h
  · cases h
    exact ⟨[], rfl⟩

theorem loadAsked_eq_map
    {v : Value}
    (h : loadAsked s extra = .ok v) :
    ∃ es : List (Value × Value), v = .map es := by
  cases extra with
  | none =>
      cases h
      exact ⟨[], rfl⟩
  | some path =>
      rw [loadAsked] at h
      split at h
      · cases h
      · exact loadFile_eq_map h

/-- Maps are merged into a map. -/
theorem layer_eq_map
    {bs es : List (Value × Value)} {v : Value}
    (h : layer (.map bs) (.map es) = .ok v) :
    ∃ rs : List (Value × Value), v = .map rs := by
  rw [layer] at h
  split at h
  · rename_i r hr
    cases h
    obtain ⟨rs, _, rfl, _⟩ := (Value.merged_of_merge? hr).entries rfl rfl
    exact ⟨rs, rfl⟩
  · cases h

theorem layer_empty
    (bs : List (Value × Value)) :
    layer (.map bs) (.map []) = .ok (.map bs) := by
  rw [layer, Value.merge?_empty]

/-- The stages of loading files. -/
theorem loadFiles_eq
    (s : Surroundings) (root : String) (extra : Option String) :
    loadFiles s root extra = (do
      let user ← loadFile s s.userFile
      let workspace ← loadFile s (workspacePath root)
      let lower ← layer user workspace
      let asked ← loadAsked s extra
      layer lower asked) := by
  rw [loadFiles]
  cases huser : loadFile s s.userFile with
  | error stop =>
      rfl
  | ok user =>
      cases hworkspace : loadFile s (workspacePath root) with
      | error stop =>
          rfl
      | ok workspace =>
          obtain ⟨bs, rfl⟩ := loadFile_eq_map huser
          obtain ⟨es, rfl⟩ := loadFile_eq_map hworkspace
          cases hlower : layer (.map bs) (.map es) with
          | error stop =>
              simp only [Except.bind, bind, hlower]
          | ok lower =>
              obtain ⟨rs, rfl⟩ := layer_eq_map hlower
              cases extra with
              | none =>
                  simp only [Except.bind, bind, hlower, loadAsked, layer_empty]
                  rfl
              | some path =>
                  simp only [Except.bind, bind, hlower, loadAsked]
                  split
                  · rfl
                  · rfl

/-- Loading is the chain of its stages. -/
theorem load_eq
    (s : Surroundings) (root : String) (extra : Option String)
    (environment : List (String × String)) (given : Value) :
    load s root extra environment given = (do
      let user ← loadFile s s.userFile
      let workspace ← loadFile s (workspacePath root)
      let lower ← layer user workspace
      let asked ← loadAsked s extra
      let files ← layer lower asked
      let sections ← (Environment.sectionsOfVariables s.variableRoom environment).mapError
        .crash
      let sources ← layer files (sections.merge (respellSections given))
      conclude s.homes sources) := by
  rw [load, loadFiles_eq]
  simp only [bind_assoc]
  refine bind_congr fun user => bind_congr fun workspace => bind_congr fun lower =>
    bind_congr fun asked => bind_congr fun files => bind_congr fun sections =>
    bind_congr fun sources => ?_
  rw [conclude]
  cases hasTextKeys sources with
  | false =>
      rfl
  | true =>
      simp only [Bool.not_true, Bool.false_eq_true, if_false, if_true]
      cases checkSources s.homes sources <;> rfl

end Stages

end Settings
end HdlLint
