import HdlLint.Proofs.Settings.Sources

/-!
# Crashes of the check

Almost every value that is no valid setting gives an issue.  Only one thing ends a check
with a crash: an output of the log that is to go to a file in a home folder that is not
known.

* `crash?_list`, `crash?_field`: a crash in a part is one of the whole, and the first one
  counts.
* `expandHome_eq_error_iff`: which paths cannot be expanded.
* `check_eq_crashed_iff`: when the check of a source crashes.
* `checkSources_eq_crashed_iff`: entries that are not expected do not change this.
-/

namespace HdlLint

namespace Checked

variable {α β : Type}

/-- The crash that a check has ended with, if it has. -/
def crash? : Checked α → Option Crash
  | crashed c => some c
  | _ => none

theorem crash?_eq_some_iff
    {a : Checked α} {c : Crash} :
    a.crash? = some c ↔ a = .crashed c := by
  cases a <;> simp [crash?]

/-- Of two independent checks the first one that crashes counts. -/
theorem crash?_seq
    (f : Checked (α → β)) (a : Checked α) :
    (seq f a).crash? = f.crash?.or a.crash? := by
  cases f <;> cases a <;> rfl

theorem crash?_ap
    (f : Checked (α → β)) (a : Checked α) :
    (f <*> a).crash? = f.crash?.or a.crash? :=
  crash?_seq f a

theorem crash?_functor_map
    (f : α → β) (a : Checked α) :
    (f <$> a).crash? = a.crash? :=
  (crash?_seq (.ok f) a).trans (Option.none_or)

theorem crash?_map
    (f : α → β) (a : Checked α) :
    (a.map f).crash? = a.crash? := by
  cases a <;> rfl

theorem crash?_inside
    (step : Step) (a : Checked α) :
    (a.inside step).crash? = a.crash? := by
  cases a <;> rfl

theorem crash?_bind
    (a : Checked α) (f : α → Checked β)
    (h : ∀ x : α, (f x).crash? = none) :
    (a.bind f).crash? = a.crash? := by
  cases a with
  | ok x =>
      exact h x
  | _ => rfl

theorem crash?_all
    (parts : List (Checked α)) :
    (all parts).crash? = parts.findSome? crash? := by
  induction parts with
  | nil =>
      rfl
  | cons a rest ih =>
      rw [all, crash?_seq, crash?_map, ih, List.findSome?_cons]
      cases a.crash? <;> rfl

end Checked

namespace Settings

open Value (IsMap)

/-- A check that never crashes. -/
def NeverCrashes {α : Type} (check : Value → Checked α) : Prop :=
  ∀ v : Value, (check v).crash? = none

/-- A path that begins with a tilde and the name of a user, or nothing for the user
himself. -/
def BeginsAtHome (path : String) (user : List Char) : Prop :=
  Path.Posix.anchor path.toList = [] ∧
    ∃ rest : List (List Char), Path.Posix.parts path.toList = ('~' :: user) :: rest

/-- A path into a home folder that is not known: nobody has the name, or the folder begins
with a tilde itself. -/
def NamesUnknownHome (homes : Homes) (path : String) : Prop :=
  ∃ user : List Char, BeginsAtHome path user ∧ '\x00' ∉ user ∧
    ∀ home : String, homes (String.ofList user) = some home → home.toList.head? = some '~'

/-- The members of a value that is a list of some kind. -/
def members (v : Value) : List Value :=
  match v.unfold with
  | .list xs => xs
  | .tuple xs => xs
  | .set xs => xs
  | _ => []

/-- Some output of the log is to go to a file with this path. -/
def SendsTo (source : Value) (path : String) : Prop :=
  ∃ outputs output destination : Value,
    setting? source "logging" "outputs" = some outputs ∧ output ∈ members outputs ∧
      output.field? "destination" = some destination ∧ Check.text destination = .ok path

section Parts

variable {α : Type}

theorem isMap_of_field?
    {v x : Value} {name : String}
    (h : v.field? name = some x) :
    v.IsMap := by
  rw [Value.field?] at h
  split at h
  · rename_i es hes
    exact ⟨es, hes⟩
  · cases h

theorem crash?_field
    (v : Value) (name : String) (default : α) (check : Value → Checked α) :
    (Check.field v name default check).crash? =
      (v.field? name).bind fun x => (check x).crash? := by
  rw [Check.field]
  cases v.field? name with
  | none =>
      rfl
  | some x =>
      exact Checked.crash?_inside _ _

theorem crash?_field_of_neverCrashes
    {check : Value → Checked α}
    (h : NeverCrashes check)
    (v : Value) (name : String) (default : α) :
    (Check.field v name default check).crash? = none := by
  rw [crash?_field]
  cases v.field? name with
  | none =>
      rfl
  | some x =>
      exact h x

theorem crash?_model_eq_some_iff
    {name : String} {check : Value → Checked α} {v : Value} {c : Crash} :
    (Check.model name check v).crash? = some c ↔ v.IsMap ∧ (check v).crash? = some c := by
  rw [Check.model]
  split
  · rename_i es hes
    exact ⟨fun h => ⟨⟨es, hes⟩, h⟩, fun h => h.2⟩
  · rename_i hno
    refine iff_of_false (by rintro ⟨⟩) ?_
    rintro ⟨⟨es, hes⟩, -⟩
    exact hno es hes

theorem crash?_list
    (check : Value → Checked α) (v : Value) :
    (Check.list check v).crash? = (members v).findSome? fun x => (check x).crash? := by
  have hmembers : ∀ xs : List Value,
      (Checked.all (xs.mapIdx fun i x => (check x).inside (.index i))).crash? =
        xs.findSome? fun x => (check x).crash? := by
    intro xs
    rw [Checked.crash?_all]
    induction xs using List.reverseRecOn with
    | nil =>
        rfl
    | append_singleton xs x ih =>
        rw [List.mapIdx_append, List.findSome?_append, List.findSome?_append, ih]
        simp [Checked.crash?_inside]
  rw [Check.list, members]
  cases v.unfold <;> first | exact hmembers _ | rfl

theorem neverCrashes_text :
    NeverCrashes Check.text := by
  intro v
  rw [Check.text.eq_def]
  split
  · rfl
  · split <;> rfl
  · rfl

theorem neverCrashes_arguments :
    NeverCrashes Check.arguments := by
  intro v
  rw [Check.arguments, Checked.crash?_map]
  exact neverCrashes_text v

theorem neverCrashes_among
    (options : List (String × α)) :
    NeverCrashes (Check.among options) := by
  intro v
  rw [Check.among.eq_def]
  split
  · split <;> rfl
  · rfl

theorem neverCrashes_level :
    NeverCrashes Check.level :=
  neverCrashes_among _

theorem neverCrashes_format :
    NeverCrashes Check.format :=
  neverCrashes_among _

theorem neverCrashes_optional
    {check : Value → Checked α}
    (h : NeverCrashes check) :
    NeverCrashes (Check.optional check) := by
  intro v
  rw [Check.optional.eq_def]
  split
  · rfl
  · rw [Checked.crash?_map]
    exact h _

theorem neverCrashes_bool :
    NeverCrashes Check.bool := by
  have hint : ∀ (i : Int) (v : Value), (Check.boolOfInt i v).crash? = none := by
    intro i v
    rw [Check.boolOfInt]
    split
    · rfl
    · split <;> rfl
  have htext : ∀ (s : String) (v : Value), (Check.boolOfText s v).crash? = none := by
    intro s v
    rw [Check.boolOfText]
    split <;> rfl
  intro v
  rw [Check.bool.eq_def]
  split
  · rfl
  · exact htext _ _
  · split
    · exact htext _ _
    · rfl
  · exact hint _ _
  · split
    · exact hint _ _
    · rfl
  · rfl

theorem neverCrashes_number :
    NeverCrashes Check.number := by
  have htext : ∀ (s : String) (v : Value), (Check.numberOfText s v).crash? = none := by
    intro s v
    rw [Check.numberOfText]
    split <;> rfl
  intro v
  rw [Check.number.eq_def]
  split
  · rfl
  · rfl
  · simp only
    split <;> rfl
  · exact htext _ _
  · split
    · exact htext _ _
    · rfl
  · rfl

theorem neverCrashes_timeout :
    NeverCrashes Check.timeout := by
  intro v
  rw [Check.timeout, Checked.crash?_bind]
  · exact neverCrashes_optional neverCrashes_number v
  · intro t
    split
    · split <;> rfl
    · rfl

end Parts

section Destinations

variable {homes : Homes}

theorem homeOf_eq_error_iff
    {user : List Char} {c : Crash} :
    Check.homeOf homes user = .error c ↔
      ('\x00' ∈ user ∧ c = .of .value "embedded null byte") ∨
        ('\x00' ∉ user ∧ c = Check.unknownHome ∧
          ∀ home : String, homes (String.ofList user) = some home →
            home.toList.head? = some '~') := by
  rw [Check.homeOf]
  by_cases hnull : '\x00' ∈ user
  · simp [hnull, eq_comm]
  · rw [if_neg (by simpa using hnull)]
    cases homes (String.ofList user) with
    | none =>
        simp [hnull, eq_comm]
    | some home =>
        by_cases htilde : home.toList.head? = some '~'
        · simp [hnull, htilde, eq_comm]
        · simp [hnull, htilde]

/-- A path that begins with a tilde is expanded if the home folder is known. -/
theorem expandHome_eq_error_iff
    {path : String} {c : Crash} :
    Check.expandHome homes path.toList = .error c ↔
      ∃ user : List Char, BeginsAtHome path user ∧
        Check.homeOf homes user = .error c := by
  rw [Check.expandHome]
  split
  · rename_i user rest hanchor hparts
    rw [List.isEmpty_iff] at hanchor
    rw [exceptMap_eq_error_iff]
    constructor
    · intro h
      exact ⟨user, ⟨hanchor, rest, hparts⟩, h⟩
    · rintro ⟨user', ⟨-, rest', hparts'⟩, h⟩
      rw [hparts] at hparts'
      cases hparts'
      exact h
  · rename_i hother
    refine iff_of_false (by rintro ⟨⟩) ?_
    rintro ⟨user, ⟨hanchor, rest, hparts⟩, -⟩
    exact hother user rest (by rw [hanchor]; rfl) hparts

/-- The names of the streams are no paths into a home folder. -/
theorem not_beginsAtHome_stream
    {path : String} {user : List Char}
    (h : path = "stderr" ∨ path = "stdout") :
    ¬ BeginsAtHome path user := by
  rintro ⟨-, rest, hparts⟩
  rcases h with rfl | rfl
  · rw [show Path.Posix.parts "stderr".toList = ["stderr".toList] by decide] at hparts
    cases hparts
  · rw [show Path.Posix.parts "stdout".toList = ["stdout".toList] by decide] at hparts
    cases hparts

/-- A destination crashes if it is in a home folder that is not known. -/
theorem destination_eq_crashed_iff
    {v : Value} {c : Crash} :
    Check.destination homes v = .crashed c ↔
      c = Check.unknownHome ∧ ∃ path : String,
        Check.text v = .ok path ∧ NamesUnknownHome homes path := by
  rw [Check.destination]
  cases htext : Check.text v with
  | ok path =>
      have hpath :
          (∃ p : String, Checked.ok path = .ok p ∧ NamesUnknownHome homes p) ↔
            NamesUnknownHome homes path := by
        simp
      rw [hpath, Checked.bind]
      split
      · rename_i hstream
        refine iff_of_false (by rintro ⟨⟩) ?_
        rintro ⟨-, user, hbegins, -⟩
        exact not_beginsAtHome_stream (Or.inl hstream) hbegins
      · split
        · rename_i hstream
          refine iff_of_false (by rintro ⟨⟩) ?_
          rintro ⟨-, user, hbegins, -⟩
          exact not_beginsAtHome_stream (Or.inr hstream) hbegins
        · constructor
          · intro h
            split at h
            · rename_i c' hexpand
              obtain ⟨user, hbegins, hhome⟩ := expandHome_eq_error_iff.mp hexpand
              rcases homeOf_eq_error_iff.mp hhome with ⟨-, rfl⟩ | ⟨hnull, rfl, hunknown⟩
              · cases h
              · cases h
                exact ⟨rfl, user, hbegins, hnull, hunknown⟩
            · split at h <;> cases h
          · rintro ⟨rfl, user, hbegins, hnull, hunknown⟩
            have hexpand := expandHome_eq_error_iff.mpr
              ⟨user, hbegins, homeOf_eq_error_iff.mpr (Or.inr ⟨hnull, rfl, hunknown⟩)⟩
            rw [hexpand]
            rfl
  | invalid issues =>
      simp [Checked.bind]
  | crashed c' =>
      have hnone := neverCrashes_text v
      rw [htext] at hnone
      cases hnone

/-- An output crashes if its destination does. -/
theorem crash?_output_eq_some_iff
    {v : Value} {c : Crash} :
    (LogOutput.check homes v).crash? = some c ↔
      c = Check.unknownHome ∧ ∃ (destination : Value) (path : String),
        v.field? "destination" = some destination ∧
        Check.text destination = .ok path ∧ NamesUnknownHome homes path := by
  rw [LogOutput.check, crash?_model_eq_some_iff, Checked.crash?_ap, Checked.crash?_ap,
    Checked.crash?_functor_map,
    crash?_field_of_neverCrashes neverCrashes_format,
    crash?_field_of_neverCrashes (neverCrashes_optional neverCrashes_level),
      Option.none_or, Option.or_none,
    crash?_field, Option.bind_eq_some_iff]
  constructor
  · rintro ⟨-, destination, hfield, hcrash⟩
    obtain ⟨rfl, path, htext, hnames⟩ :=
      destination_eq_crashed_iff.mp (Checked.crash?_eq_some_iff.mp hcrash)
    exact ⟨rfl, destination, path, hfield, htext, hnames⟩
  · rintro ⟨rfl, destination, path, hfield, htext, hnames⟩
    refine ⟨isMap_of_field? hfield, destination, hfield, ?_⟩
    exact Checked.crash?_eq_some_iff.mpr
      (destination_eq_crashed_iff.mpr ⟨rfl, path, htext, hnames⟩)

/-- The check of a source crashes if some output of the log is to go into a home folder
that is not known. -/
theorem check_eq_crashed_iff
    {entries : List (Value × Value)} {c : Crash} :
    Settings.check homes (.map entries) = .crashed c ↔
      c = Check.unknownHome ∧ ∃ path : String,
        SendsTo (.map entries) path ∧ NamesUnknownHome homes path := by
  have hlinting : ∀ v : Value, (LintSettings.check v).crash? = none := by
    intro v
    rw [Option.eq_none_iff_forall_ne_some]
    intro c' hc'
    rw [LintSettings.check, crash?_model_eq_some_iff] at hc'
    simp only [Checked.crash?_ap, Checked.crash?_functor_map,
      crash?_field_of_neverCrashes neverCrashes_text,
      crash?_field_of_neverCrashes neverCrashes_arguments,
        crash?_field_of_neverCrashes neverCrashes_bool,
      crash?_field_of_neverCrashes neverCrashes_timeout, Option.or_none] at hc'
    cases hc'.2
  rw [← Checked.crash?_eq_some_iff, Settings.check,
    crash?_model_eq_some_iff, Checked.crash?_ap,
    Checked.crash?_functor_map, crash?_field_of_neverCrashes hlinting,
      Option.or_none, crash?_field,
    Option.bind_eq_some_iff]
  constructor
  · rintro ⟨-, logging, hlogging, hcrash⟩
    rw [LogSettings.check, crash?_model_eq_some_iff, Checked.crash?_ap,
      Checked.crash?_functor_map,
      crash?_field_of_neverCrashes neverCrashes_level, Option.none_or, crash?_field,
      Option.bind_eq_some_iff] at hcrash
    obtain ⟨-, outputs, houtputs, hcrash⟩ := hcrash
    rw [crash?_list] at hcrash
    obtain ⟨output, hmem, hcrash⟩ := List.exists_of_findSome?_eq_some hcrash
    obtain ⟨rfl, destination, path, hfield, htext, hnames⟩ :=
      crash?_output_eq_some_iff.mp hcrash
    exact ⟨rfl, path,
      ⟨outputs, output,
        destination, by rw [setting?, hlogging, Option.bind_some, houtputs], hmem,
      hfield, htext⟩, hnames⟩
  · rintro ⟨rfl, path, ⟨outputs, output, destination, hsetting, hmem, hfield, htext⟩,
      hnames⟩
    obtain ⟨logging, hlogging, houtputs⟩ := Option.bind_eq_some_iff.mp hsetting
    refine ⟨⟨entries, rfl⟩, logging, hlogging, ?_⟩
    rw [LogSettings.check, crash?_model_eq_some_iff, Checked.crash?_ap,
      Checked.crash?_functor_map,
      crash?_field_of_neverCrashes neverCrashes_level, Option.none_or, crash?_field,
      Option.bind_eq_some_iff]
    refine ⟨isMap_of_field? houtputs, outputs, houtputs, ?_⟩
    rw [crash?_list]
    have houtput :=
      crash?_output_eq_some_iff.mpr ⟨rfl, destination, path, hfield, htext, hnames⟩
    cases hcrash : (members outputs).findSome? fun x =>
      (LogOutput.check homes x).crash? with
    | none =>
        rw [List.findSome?_eq_none_iff.mp hcrash output hmem] at houtput
        cases houtput
    | some c' =>
        obtain ⟨output', -, hcrash'⟩ := List.exists_of_findSome?_eq_some hcrash
        rw [(crash?_output_eq_some_iff.mp hcrash').1]

/-- Entries that are not expected do not change when the check crashes. -/
theorem checkSources_eq_crashed_iff
    {v : Value} {c : Crash} :
    checkSources homes v = .crashed c ↔ Settings.check homes v = .crashed c := by
  rw [checkSources]
  split
  · exact Iff.rfl
  · rw [Checked.seqLeft]
    cases Settings.check homes v <;> simp [Checked.map, Checked.seq]

end Destinations

end Settings
end HdlLint
