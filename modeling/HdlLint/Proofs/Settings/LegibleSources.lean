import HdlLint.Proofs.Settings.LoadStages
import HdlLint.Proofs.Settings.UnreadableVariables

/-!
# Legible sources

Some files and variables are taken here for something else than the program takes them
for.  Half of a surrogate pair is no character, so an escape that spells one reads as
another character.  A file is read as a whole, where the program stops at the first fault
in a block although a later block is no text.  And values are looked through however deep
they are.  Sources are legible if none of this makes a difference.

* `LegibleSources`: what legible sources are.
* `loadFile_fits`, `loadAsked_fits`: the map of a legible file can be looked through.
-/

namespace HdlLint

namespace Value

mutual

/-- How many collections stand in one another in a value at most. -/
def height : Value → Nat
  | .list xs => heightOf xs + 1
  | .tuple xs => heightOf xs + 1
  | .set xs => heightOf xs + 1
  | .map es => heightOfEntries es + 1
  | .cycle _ v => height v
  | _ => 0

/-- The height of the highest member of a collection. -/
def heightOf : List Value → Nat
  | [] => 0
  | x :: xs => max (height x) (heightOf xs)

/-- The height of the highest key or value of a map. -/
def heightOfEntries : List (Value × Value) → Nat
  | [] => 0
  | (k, v) :: r => max (max (height k) (height v)) (heightOfEntries r)

end

/-- How many collections can safely stand in one another where values are merged and
written. -/
def safeHeight : Nat := 100

/-- A value that can be looked through: no collection contains itself, and not too many
stand in one another. -/
structure Fits (v : Value) : Prop where
  acyclic : v.hasCycle = false
  shallow : v.height ≤ safeHeight

instance (v : Value) : Decidable v.Fits :=
  decidable_of_iff (v.hasCycle = false ∧ v.height ≤ safeHeight)
    ⟨fun h => ⟨h.1, h.2⟩, fun h => ⟨h.1, h.2⟩⟩

end Value

/-- Half of a surrogate pair is spelled by an escape: by its four hexadecimal digits, or
by eight that begin with zeros. -/
def SpellsHalf (text : List Char) : Prop :=
  ∃ (before digits after : List Char) (n : Nat),
    (text = before ++ '\\' :: 'u' :: digits ++ after ∨
      text = before ++ '\\' :: 'U' :: '0' :: '0' :: '0' :: '0' :: digits ++ after) ∧
    Value.Json.unit? digits = some (n, []) ∧ 0xD800 ≤ n ∧ n ≤ 0xDFFF

namespace Settings

open Environment (lastText? sectionsOfVariables)

/-- How many bytes of a file are surely read before anything in them is looked at. -/
def firstBytes : Nat := 4096

/-- A file that is read as it is meant to be. -/
structure LegibleFile (s : Surroundings) (path : String) : Prop where
  /-- A fault in the bytes or characters shows before any fault in what they say. -/
  whole : ∀ bytes : List UInt8, s.tree.file? s.folder path = some bytes →
    bytes.length ≤ firstBytes ∨
      ∃ text : String, Text.Utf8.decodeBlocks bytes = .ok text ∧
        text.toList.all Yaml.isDocumentChar = true
  escapes : ∀ (bytes : List UInt8) (text : String),
    s.tree.file? s.folder path = some bytes →
    Text.Utf8.decodeBlocks bytes = .ok text → ¬ SpellsHalf text.toList
  fits : ∀ (bytes : List UInt8) (text : String) (v : Value),
    s.tree.file? s.folder path = some bytes →
    Text.Utf8.decodeBlocks bytes = .ok text →
      Yaml.readDocument (s.documentRoom path)
        (String.ofList (Text.unifyLineEnds text.toList)) = .ok v → v.Fits

/-- The names of the variables that hold JSON. -/
def jsonNames : List String :=
  Environment.outputsName :: Environment.sections.map fun e => Environment.start ++ e.1

/-- Files and variables that are read as they are meant to be. -/
structure LegibleSources (s : Surroundings) (root : String) (extra : Option String)
    (environment : List (String × String)) : Prop where
  user : LegibleFile s s.userFile
  workspace : LegibleFile s (workspacePath root)
  asked : ∀ path : String,
    extra = some path → LegibleFile s (String.ofList (Path.Posix.tidy path.toList))
  escapes : ∀ name ∈ jsonNames, ∀ text : String, lastText? environment name = some text →
    ¬ SpellsHalf text.toList
  fits : ∀ sections : Value,
    sectionsOfVariables s.variableRoom environment = .ok sections → sections.Fits

section Files

variable {s : Surroundings} {path : String} {v : Value}

theorem fits_empty :
    (Value.map []).Fits := by
  decide

theorem file?_eq_some_iff
    {tree : FileTree} {folder : List String} {bytes : List UInt8} :
    tree.file? folder path = some bytes ↔ ∃ place : List String,
      tree.find folder path = .found place (.file bytes) := by
  rw [FileTree.file?]
  split
  · rename_i place bytes' hfind
    simp [hfind]
  · rename_i hother
    refine iff_of_false (by rintro ⟨⟩) ?_
    rintro ⟨place, hfind⟩
    exact hother place bytes hfind

/-- The map of a legible file can be looked through. -/
theorem loadFile_fits
    (h : LegibleFile s path)
    (hload : loadFile s path = .ok v) :
    v.Fits := by
  rw [loadFile] at hload
  split at hload
  · rename_i place bytes hfind
    have hfile := file?_eq_some_iff.mpr ⟨place, hfind⟩
    split at hload
    · cases hload
    · rename_i text hdecode
      rw [mapOfDocument] at hload
      split at hload
      · cases hload
      · cases hload
      · rename_i w hread
        have hfits := h.fits bytes text w hfile hdecode hread
        rw [Value.unfold_of_hasCycle_eq_false hfits.acyclic] at hload
        split at hload
        · cases hload
          exact hfits
        · split at hload
          · cases hload
          · cases hload
            exact fits_empty
  · cases hload
  · cases hload
    exact fits_empty

theorem loadAsked_fits
    {extra : Option String}
    (h : ∀ path : String, extra = some path →
      LegibleFile s (String.ofList (Path.Posix.tidy path.toList)))
    (hload : loadAsked s extra = .ok v) :
    v.Fits := by
  cases extra with
  | none =>
      cases hload
      exact fits_empty
  | some path =>
      rw [loadAsked] at hload
      split at hload
      · cases hload
      · exact loadFile_fits (h path rfl) hload

end Files

section Texts

/-- Without a backslash there is no escape. -/
theorem not_spellsHalf_of_not_mem
    {text : List Char}
    (h : '\\' ∉ text) :
    ¬ SpellsHalf text := by
  rintro ⟨before, digits, after, n, rfl | rfl, -⟩
  · exact h (by simp)
  · exact h (by simp)

/-- A file of proper characters without a backslash is legible if its document can be
looked through. -/
theorem legibleFile_of_plain
    {s : Surroundings} {path : String} {bytes : List UInt8} {text : String} {v : Value}
    (hfile : s.tree.file? s.folder path = some bytes)
    (hdecode : Text.Utf8.decodeBlocks bytes = .ok text)
    (hchars : text.toList.all Yaml.isDocumentChar = true)
    (hplain : '\\' ∉ text.toList)
    (hread : Yaml.readDocument (s.documentRoom path)
      (String.ofList (Text.unifyLineEnds text.toList)) = .ok v)
    (hfits : v.Fits) :
    LegibleFile s path := by
  have hbytes : ∀ bytes' : List UInt8,
      s.tree.file? s.folder path = some bytes' → bytes' = bytes := by
    intro bytes' hfile'
    rw [hfile] at hfile'
    exact (Option.some.inj hfile').symm
  have htext : ∀ (bytes' : List UInt8) (text' : String),
      s.tree.file? s.folder path = some bytes' →
      Text.Utf8.decodeBlocks bytes' = .ok text' → text' = text := by
    intro bytes' text' hfile' hdecode'
    rw [hbytes bytes' hfile', hdecode] at hdecode'
    exact (Except.ok.inj hdecode').symm
  constructor
  · intro bytes' hfile'
    rw [hbytes bytes' hfile']
    exact Or.inr ⟨text, hdecode, hchars⟩
  · intro bytes' text' hfile' hdecode'
    rw [htext bytes' text' hfile' hdecode']
    exact not_spellsHalf_of_not_mem hplain
  · intro bytes' text' w hfile' hdecode' hread'
    rw [htext bytes' text' hfile' hdecode', hread] at hread'
    obtain rfl := Except.ok.inj hread'
    exact hfits

end Texts

end Settings
end HdlLint
