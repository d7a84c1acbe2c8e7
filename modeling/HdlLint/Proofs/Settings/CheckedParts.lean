import HdlLint.Proofs.Settings.EachSetting

/-!
# Parts of checked settings

Settings are checked part by part.  A map of them is valid exactly if the value that it
gives to each part is, whatever else the map holds.

* `Check.field_eq_ok_iff`: a part is the checked value, or its default.
* `Check.timeout_eq_ok_iff`: a time limit is a number that is not at most zero.
* `LintSettings.check_eq_ok_iff` and its kin: a map is valid exactly if each of its parts
  takes its value.
-/

namespace HdlLint

open Settings (Takes)

section Parts

variable {α : Type} {v : Value}

theorem Check.field_eq_ok_iff
    {name : String} {default a : α} {check : Value → Checked α} :
    Check.field v name default check = .ok a ↔ Takes (v.field? name) default check a := by
  unfold Check.field Takes
  cases v.field? name with
  | none =>
      simp [eq_comm]
  | some x =>
      exact Checked.inside_eq_ok_iff

theorem Check.model_eq_ok_iff
    {name : String} {a : α} {check : Value → Checked α} :
    Check.model name check v = .ok a ↔ v.IsMap ∧ check v = .ok a := by
  unfold Check.model
  split
  · rename_i es hes
    exact ⟨fun h => ⟨⟨es, hes⟩, h⟩, fun h => h.2⟩
  · rename_i hother
    refine iff_of_false (by rintro ⟨⟩) ?_
    rintro ⟨⟨es, hes⟩, -⟩
    exact hother es hes

/-- A part is a checked value, or its default. -/
theorem Settings.Takes.checked_or_default
    {value : Option Value} {default a : α} {check : Value → Checked α}
    (h : Takes value default check a) :
    (∃ x : Value, check x = .ok a) ∨ a = default := by
  cases value with
  | none =>
      exact Or.inr h
  | some x =>
      exact Or.inl ⟨x, h⟩

end Parts

namespace Check

variable {v : Value}

theorem optional_eq_some_iff
    {α : Type} {check : Value → Checked α} {a : α} :
    optional check v = .ok (some a) ↔ v ≠ .null ∧ check v = .ok a := by
  unfold optional
  split
  · exact iff_of_false (by rintro ⟨⟩) fun h => h.1 rfl
  · rename_i hnull
    have hne : v ≠ .null := fun h => hnull h
    cases check v <;> simp [Checked.map, hne]

/-- A time limit is a number that is not at most zero. -/
theorem timeout_eq_ok_iff
    {t : Option Binary64} :
    timeout v = .ok t ↔ optional number v = .ok t ∧ ∀ x ∈ t, x.isNonpositive = false := by
  unfold timeout
  cases optional number v with
  | ok t' =>
      cases t' with
      | none =>
          simp only [Checked.bind, Checked.ok.injEq]
          refine ⟨?_, And.left⟩
          rintro rfl
          exact ⟨rfl, by rintro x ⟨⟩⟩
      | some x =>
          simp only [Checked.bind]
          split
          · rename_i hx
            refine iff_of_false (by rintro ⟨⟩) ?_
            rintro ⟨⟨⟩, h⟩
            rw [h x rfl] at hx
            cases hx
          · rename_i hx
            refine ⟨?_, And.left⟩
            rintro ⟨⟩
            refine ⟨rfl, ?_⟩
            rintro y ⟨⟩
            exact Bool.eq_false_iff.mpr hx
  | _ =>
      exact iff_of_false (by rintro ⟨⟩) (by rintro ⟨⟨⟩, -⟩)

end Check

section Models

variable {v : Value}

theorem LogOutput.check_eq_ok_iff
    {homes : Homes} {o : LogOutput} :
    LogOutput.check homes v = .ok o ↔
      v.IsMap ∧ Takes (v.field? "format") .console Check.format o.format ∧
        Takes (v.field? "destination") .errorStream
          (Check.destination homes) o.destination ∧
        Takes (v.field? "level") none (Check.optional Check.level) o.level := by
  simp only [LogOutput.check, Check.model_eq_ok_iff, Checked.seq_eq_ok_iff,
    Checked.map_eq_ok_iff, Check.field_eq_ok_iff]
  refine and_congr_right fun _ => ?_
  constructor
  · rintro ⟨_, _, ⟨_, _, ⟨_, hformat, rfl⟩, hdestination, rfl⟩, hlevel, rfl⟩
    exact ⟨hformat, hdestination, hlevel⟩
  · rintro ⟨hformat, hdestination, hlevel⟩
    exact ⟨_, _, ⟨_, _, ⟨_, hformat, rfl⟩, hdestination, rfl⟩, hlevel, rfl⟩

theorem LogSettings.check_eq_ok_iff
    {homes : Homes} {s : LogSettings} :
    LogSettings.check homes v = .ok s ↔
      v.IsMap ∧ Takes (v.field? "level") .info Check.level s.level ∧
        Takes (v.field? "outputs") [{}]
          (Check.list (LogOutput.check homes)) s.outputs := by
  simp only [LogSettings.check, Check.model_eq_ok_iff, Checked.seq_eq_ok_iff,
    Checked.map_eq_ok_iff, Check.field_eq_ok_iff]
  refine and_congr_right fun _ => ?_
  constructor
  · rintro ⟨_, _, ⟨_, hlevel, rfl⟩, houtputs, rfl⟩
    exact ⟨hlevel, houtputs⟩
  · rintro ⟨hlevel, houtputs⟩
    exact ⟨_, _, ⟨_, hlevel, rfl⟩, houtputs, rfl⟩

theorem LintSettings.check_eq_ok_iff
    {s : LintSettings} :
    LintSettings.check v = .ok s ↔
      v.IsMap ∧ Takes (v.field? "path") "" Check.text s.path ∧
        Takes (v.field? "arguments") "" Check.arguments s.arguments ∧
        Takes (v.field? "run_at_file_location") false Check.bool s.runAtFile ∧
        Takes (v.field? "use_wsl") false Check.bool s.useWsl ∧
        Takes (v.field? "timeout_sec") none Check.timeout s.timeout := by
  simp only [LintSettings.check, Check.model_eq_ok_iff, Checked.seq_eq_ok_iff,
    Checked.map_eq_ok_iff, Check.field_eq_ok_iff]
  refine and_congr_right fun _ => ?_
  constructor
  · rintro ⟨_, _,
      ⟨_, _, ⟨_, _, ⟨_, _, ⟨_, hpath, rfl⟩, harguments, rfl⟩, hrun, rfl⟩, hwsl, rfl⟩,
      htimeout, rfl⟩
    exact ⟨hpath, harguments, hrun, hwsl, htimeout⟩
  · rintro ⟨hpath, harguments, hrun, hwsl, htimeout⟩
    exact ⟨_, _,
      ⟨_, _, ⟨_, _, ⟨_, _, ⟨_, hpath, rfl⟩, harguments, rfl⟩, hrun, rfl⟩, hwsl, rfl⟩,
      htimeout, rfl⟩

theorem Settings.check_eq_ok_iff
    {homes : Homes} {s : Settings} :
    Settings.check homes v = .ok s ↔
      v.IsMap ∧ Takes (v.field? "logging") {} (LogSettings.check homes) s.logging ∧
        Takes (v.field? "linting") {} LintSettings.check s.linting := by
  simp only [Settings.check, Check.model_eq_ok_iff, Checked.seq_eq_ok_iff,
    Checked.map_eq_ok_iff, Check.field_eq_ok_iff]
  refine and_congr_right fun _ => ?_
  constructor
  · rintro ⟨_, _, ⟨_, hlogging, rfl⟩, hlinting, rfl⟩
    exact ⟨hlogging, hlinting⟩
  · rintro ⟨hlogging, hlinting⟩
    exact ⟨_, _, ⟨_, hlogging, rfl⟩, hlinting, rfl⟩

end Models

end HdlLint
