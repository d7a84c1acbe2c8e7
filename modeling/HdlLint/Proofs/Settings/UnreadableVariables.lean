import HdlLint.Proofs.Fault.Stages
import HdlLint.Proofs.Settings.Variables
import HdlLint.Proofs.Settings.VariablesAcyclic

/-!
# Variables that cannot be read

A variable that names a whole section has to hold JSON, and so has the one that names the
outputs of the log, unless it is empty.  All other variables can hold any text.

* `settingsOf_eq_error_iff`: which variable makes the settings of a section unreadable.
* `sectionValue?_eq_error_iff`: which variables make a section unreadable.
* `sectionsOfVariables_eq_error_iff`: the crash of variables that cannot be read.
-/

namespace HdlLint
namespace Environment

/-- The variable of the outputs of the log. -/
def outputsName : String := "verilint__logging__outputs"

/-- Reading the outputs of the log from their variable crashes. -/
def OutputsCrash (room : String →
    Nat) (environment : List (String × String)) (c : Crash) : Prop :=
  ∃ text : String, lastText? environment outputsName = some text ∧ text ≠ "" ∧
    readVariable room "logging" outputsName text = .error c

/-- The ways in which reading a section from variables crashes. -/
inductive SectionCrash (room : String → Nat) (environment : List (String × String))
    (group : String) (c : Crash) : Prop
  /-- The variable of the whole section cannot be read. -/
  | whole
      {text : String}
      (htext : lastText? environment (start ++ group) = some text)
      (hread : readVariable room group (start ++ group) text = .error c)
  /-- The outputs of the log cannot be read.  They are looked at if the section is a map
  otherwise, or not given. -/
  | outputs
      (hgroup : group = "logging")
      (hmap : ∀ text : String, lastText? environment (start ++ group) = some text →
        ∃ es : List (Value × Value),
          readVariable room group (start ++ group) text = .ok (.map es))
      (houtputs : OutputsCrash room environment c)

/-- Reading all sections from variables crashes, in the first section whose reading
does. -/
def VariablesCrash (room : String →
    Nat) (environment : List (String × String)) (c : Crash) : Prop :=
  SectionCrash room environment "logging" c ∨
    (¬ ∃ c' : Crash, SectionCrash room environment "logging" c') ∧
      SectionCrash room environment "linting" c

section Names

theorem nameParts_ne_nil
    (name : List Char) :
    nameParts name ≠ [] := by
  unfold nameParts
  split
  · exact List.cons_ne_nil _ _
  · exact List.cons_ne_nil _ _
  · split <;> exact List.cons_ne_nil _ _

/-- A name that is one part is this part. -/
theorem eq_of_nameParts_eq_singleton
    {name part : List Char}
    (h : nameParts name = [part]) :
    name = part := by
  induction name generalizing part with
  | nil =>
      exact List.cons.inj h |>.1
  | cons c rest ih =>
      unfold nameParts at h
      split at h
      · rename_i heq
        cases heq
      · exact absurd (List.cons.inj h).2 (nameParts_ne_nil _)
      · rename_i c' r' hno heq
        obtain ⟨rfl, rfl⟩ := List.cons.inj heq
        split at h
        · rename_i hnil
          exact absurd hnil (nameParts_ne_nil _)
        · rename_i w ws hparts
          obtain ⟨rfl, rfl⟩ := List.cons.inj h
          rw [ih hparts]

/-- A variable for the outputs of the log names nothing inside them. -/
theorem onePart_iff
    {rest : List Char} :
    ((nameParts rest).map String.ofList).dropLast = [] ∧
      ((nameParts rest).map String.ofList).getLastD "" = "outputs" ↔
      rest = "outputs".toList := by
  constructor
  · rintro ⟨hkeys, hlast⟩
    cases hparts : nameParts rest with
    | nil =>
        exact absurd hparts (nameParts_ne_nil rest)
    | cons part more =>
        rw [hparts] at hkeys hlast
        cases more with
        | nil =>
            obtain rfl := eq_of_nameParts_eq_singleton hparts
            rw [← String.toList_inj] at hlast
            simpa using hlast
        | cons part' more =>
            cases hkeys
  · rintro rfl
    rw [nameParts_eq_singleton (by decide)]
    exact ⟨rfl, rfl⟩

variable {room : String → Nat} {c : Crash}

/-- The crash that a variable makes of the settings of a section. -/
def faultOf? (room : String → Nat) (group : String) (v : String × String) :
    Option Crash :=
  if group = "logging" ∧ v.1 = outputsName ∧ v.2 ≠ "" then
    match readVariable room group v.1 v.2 with
    | .error c => some c
    | .ok _ => none
  else none

theorem faultOf?_eq_some_iff
    {group : String} {v : String × String} :
    faultOf? room group v = some c ↔
      group = "logging" ∧ v.1 = outputsName ∧ v.2 ≠ "" ∧
        readVariable room group v.1 v.2 = .error c := by
  rw [faultOf?]
  split
  · rename_i hv
    cases readVariable room group v.1 v.2 <;> simp [hv]
  · rename_i hv
    refine iff_of_false (by rintro ⟨⟩) ?_
    rintro ⟨hgroup, hname, htext, -⟩
    exact hv ⟨hgroup, hname, htext⟩

theorem settingValue_eq_error_iff
    {group last name text : String} {keys : List String} :
    settingValue room group keys last name text = .error c ↔
      keys = [] ∧ group = "logging" ∧ last = "outputs" ∧ text ≠ "" ∧
        readVariable room group name text = .error c := by
  rw [settingValue]
  split
  · rename_i hjson
    simp only [structuredSetting, Bool.and_eq_true, List.isEmpty_iff, decide_eq_true_eq,
      Prod.mk.injEq] at hjson
    obtain ⟨⟨hkeys, hgroup, hlast⟩, htext⟩ := hjson
    simp [hkeys, hgroup, hlast, htext]
  · rename_i hplain
    refine iff_of_false (by rintro ⟨⟩) ?_
    rintro ⟨rfl, rfl, rfl, htext, -⟩
    exact hplain (by simp [structuredSetting, htext])

/-- A variable whose name begins like those for a section crashes if it is that of the
outputs of the log and cannot be read. -/
theorem settingValue_eq_error_iff_faultOf?
    {group : String} {v : String × String} {rest : List Char}
    (hrest : (start ++ group).toList ++ separator ++ rest = v.1.toList) :
    settingValue room group (List.map String.ofList (nameParts rest)).dropLast
        ((List.map String.ofList (nameParts rest)).getLastD "") v.1 v.2 = .error c ↔
      faultOf? room group v = some c := by
  have houtputs : (start ++ "logging").toList ++ separator ++ "outputs".toList =
      outputsName.toList := by decide
  have hname : group = "logging" → (rest = "outputs".toList ↔ v.1 = outputsName) := by
    rintro rfl
    rw [← String.toList_inj, ← hrest, ← houtputs, List.append_cancel_left_eq]
  rw [settingValue_eq_error_iff, faultOf?_eq_some_iff]
  constructor
  · rintro ⟨hkeys, hgroup, hlast, htext, hread⟩
    exact ⟨hgroup, (hname hgroup).mp (onePart_iff.mp ⟨hkeys, hlast⟩), htext, hread⟩
  · rintro ⟨hgroup, hfull, htext, hread⟩
    obtain ⟨hkeys, hlast⟩ := onePart_iff.mpr ((hname hgroup).mpr hfull)
    exact ⟨hkeys, hgroup, hlast, htext, hread⟩

/-- The settings of a section are unreadable if the variable of the outputs of the log is
among them and is. -/
theorem settingsOf_eq_error_iff
    {group : String} {named : List (String × String)} :
    settingsOf room group named = .error c ↔
      named.findSome? (faultOf? room group) = some c := by
  refine foldlM_eq_error_iff ?_
  rintro acc v e
  simp only [List.isPrefixOf_iff_prefix]
  by_cases hprefix : ((start ++ group).toList ++ separator) <+: v.1.toList
  · obtain ⟨rest, hrest⟩ := hprefix
    rw [← settingValue_eq_error_iff_faultOf? hrest]
    simp only [← hrest, List.prefix_append, if_true, List.drop_left,
      exceptBind_eq_error_iff]
    refine or_iff_left ?_
    rintro ⟨x, -, ⟨⟩⟩
  · simp only [if_neg hprefix]
    refine iff_of_false (by rintro ⟨⟩) ?_
    rw [faultOf?_eq_some_iff]
    rintro ⟨rfl, hname, -⟩
    exact hprefix ⟨"outputs".toList, by rw [hname]; decide⟩

end Names

section Sections

variable {room : String → Nat} {environment : List (String × String)} {group : String}
  {names : List String} {c : Crash}

theorem lookup_eq_some_iff_mem
    {m text : String} :
    lastText? environment m = some text ↔ (m, text) ∈ normalize environment := by
  rw [← lookup_normalize, List.lookup_eq_some_iff]
  constructor
  · rintro ⟨before, after, heq, -⟩
    rw [heq]
    exact List.mem_append_right _ List.mem_cons_self
  · intro hmem
    obtain ⟨before, after, heq⟩ := List.append_of_mem hmem
    have hnodup := nodup_normalize environment
    rw [heq, List.map_append, List.nodup_append] at hnodup
    refine ⟨before, after, heq, ?_⟩
    intro p hp
    have hne := hnodup.2.2 p.1 (List.mem_map_of_mem hp) m (by simp)
    simpa using hne.symm

/-- The outputs of the log have one variable, so no other one can come before it. -/
theorem findSome?_faultOf?_eq_some_iff :
    (normalize environment).findSome? (faultOf? room group) = some c ↔
      group = "logging" ∧ OutputsCrash room environment c := by
  constructor
  · intro hfind
    obtain ⟨⟨name, text⟩, hmem, hfault⟩ := List.exists_of_findSome?_eq_some hfind
    obtain ⟨rfl, rfl, htext, hread⟩ := faultOf?_eq_some_iff.mp hfault
    exact ⟨rfl, text, lookup_eq_some_iff_mem.mpr hmem, htext, hread⟩
  · rintro ⟨rfl, text, hlast, htext, hread⟩
    have hmem := lookup_eq_some_iff_mem.mp hlast
    have hfault : faultOf? room "logging" (outputsName, text) = some c :=
      faultOf?_eq_some_iff.mpr ⟨rfl, rfl, htext, hread⟩
    cases hfind : (normalize environment).findSome? (faultOf? room "logging") with
    | none =>
        rw [List.findSome?_eq_none_iff.mp hfind _ hmem] at hfault
        cases hfault
    | some c' =>
        obtain ⟨⟨name, text'⟩, hmem', hfault'⟩ := List.exists_of_findSome?_eq_some hfind
        obtain ⟨-, rfl, -, hread'⟩ := faultOf?_eq_some_iff.mp hfault'
        have htext' := lookup_eq_some_iff_mem.mpr hmem'
        rw [hlast] at htext'
        obtain rfl := Option.some.inj htext'
        rw [hread] at hread'
        obtain rfl := Except.error.inj hread'
        rfl

/-- Which variables make a section unreadable. -/
theorem sectionValue?_eq_error_iff :
    sectionValue? room group names (normalize environment) = .error c ↔
      SectionCrash room environment group c := by
  have hsettings := @settingsOf_eq_error_iff room c group (normalize environment)
  rw [findSome?_faultOf?_eq_some_iff] at hsettings
  rw [sectionValue?, lookup_normalize]
  cases htext : lastText? environment (start ++ group) with
  | none =>
      simp only [exceptBind_eq_error_iff, hsettings]
      constructor
      · rintro (⟨hgroup, hcrash⟩ | ⟨es, -, ⟨⟩⟩)
        exact .outputs hgroup (by simp [htext]) hcrash
      · rintro (⟨htext', -⟩ | ⟨hgroup, -, hcrash⟩)
        · rw [htext] at htext'
          cases htext'
        · exact Or.inl ⟨hgroup, hcrash⟩
  | some text =>
      simp only [exceptBind_eq_error_iff]
      constructor
      · rintro (hread | ⟨v, hread, h⟩)
        · exact .whole htext hread
        · cases v with
          | map es =>
              simp only [exceptBind_eq_error_iff, hsettings] at h
              rcases h with ⟨hgroup, hcrash⟩ | ⟨settings, -, h⟩
              · refine .outputs hgroup ?_ hcrash
                intro text' htext'
                rw [htext] at htext'
                obtain rfl := Option.some.inj htext'
                exact ⟨es, hread⟩
              · split at h <;> cases h
          | _ => cases h
      · rintro (⟨htext', hread⟩ | ⟨hgroup, hmap, hcrash⟩)
        · rw [htext] at htext'
          obtain rfl := Option.some.inj htext'
          exact Or.inl hread
        · obtain ⟨es, hread⟩ := hmap text htext
          refine Or.inr ⟨.map es, hread, ?_⟩
          simp only [exceptBind_eq_error_iff, hsettings]
          exact Or.inl ⟨hgroup, hcrash⟩

/-- Variables that cannot be read end the loading with a crash, that of the first
section. -/
theorem sectionsOfVariables_eq_error_iff :
    sectionsOfVariables room environment = .error c ↔
      VariablesCrash room environment c := by
  rw [sectionsOfVariables_eq, exceptBind_eq_error_iff,
    sectionValue?_eq_error_iff, VariablesCrash]
  refine or_congr_right ?_
  constructor
  · rintro ⟨logging, hlogging, h⟩
    refine ⟨?_, ?_⟩
    · rintro ⟨c', hcrash⟩
      rw [sectionValue?_eq_error_iff.mpr hcrash] at hlogging
      cases hlogging
    · rcases exceptBind_eq_error_iff.mp h with hlinting | ⟨linting, -, ⟨⟩⟩
      exact sectionValue?_eq_error_iff.mp hlinting
  · rintro ⟨hno, hcrash⟩
    cases hlogging :
      sectionValue? room "logging" ["level", "outputs"] (normalize environment) with
    | error c' =>
        exact absurd ⟨c', sectionValue?_eq_error_iff.mp hlogging⟩ hno
    | ok logging =>
        refine ⟨logging, rfl, ?_⟩
        rw [exceptBind_eq_error_iff]
        exact Or.inl (sectionValue?_eq_error_iff.mpr hcrash)

end Sections

end Environment
end HdlLint
