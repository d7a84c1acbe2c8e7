import HdlLint.Proofs.Settings.CheckedParts
import HdlLint.Proofs.Settings.LoadStages
import HdlLint.Settings.Overlay

/-!
# Settings given for one run

Settings that were loaded stay valid when others are laid over them for one run: the
loaded ones have been checked, and texts and truth values are valid whatever they are.

* `hasTimeout_of_load`: a time limit that was loaded is not refused.
* `overlay_eq`: laying changes over valid settings changes what was given, and nothing
  else.
-/

namespace HdlLint

/-- A time limit that is not refused: it is positive, or no number. -/
def LintSettings.HasTimeout (s : LintSettings) : Prop :=
  ∀ x ∈ s.timeout, x.isNonpositive = false

/-- The settings with changes in place of what they were given for. -/
def LintSettings.changed (s : LintSettings) (c : LintChanges) : LintSettings where
  path := c.path.getD s.path
  arguments := Text.trim (c.arguments.getD s.arguments)
  runAtFile := c.runAtFile.getD s.runAtFile
  useWsl := c.useWsl.getD s.useWsl
  timeout := s.timeout

section Loaded

variable {v : Value}

theorem ok_of_seqLeft
    {α β : Type} {a : Checked α} {b : Checked β} {x : α}
    (h : a.seqLeft b = .ok x) :
    a = .ok x := by
  cases a <;> cases b <;> simp_all [Checked.seqLeft, Checked.seq, Checked.map]

theorem hasTimeout_of_check
    {s : LintSettings}
    (h : LintSettings.check v = .ok s) :
    s.HasTimeout := by
  obtain ⟨-, -, -, -, -, htimeout⟩ := LintSettings.check_eq_ok_iff.mp h
  obtain ⟨limit, hlimit⟩ | hnone := htimeout.checked_or_default
  · exact (Check.timeout_eq_ok_iff.mp hlimit).2
  · rintro x hx
    rw [hnone] at hx
    cases hx

theorem check_of_checkSources
    {homes : Homes} {settings : Settings}
    (h : Settings.checkSources homes v = .ok settings) :
    Settings.check homes v = .ok settings := by
  unfold Settings.checkSources at h
  split at h
  · exact h
  · exact ok_of_seqLeft h

/-- Settings that were loaded have been checked. -/
theorem check_of_load
    {surroundings : Settings.Surroundings} {root : String} {extra : Option String}
    {environment : List (String × String)} {given : Value} {settings : Settings}
    (h : Settings.load surroundings root extra environment given = .ok settings) :
    ∃ sources : Value, Settings.check surroundings.homes sources = .ok settings := by
  obtain ⟨sources, hsources⟩ : ∃ sources : Value,
    Settings.conclude surroundings.homes sources = .ok settings := by
    rw [Settings.load_eq] at h
    obtain ⟨_, -, h⟩ := exceptBind_ok h
    obtain ⟨_, -, h⟩ := exceptBind_ok h
    obtain ⟨_, -, h⟩ := exceptBind_ok h
    obtain ⟨_, -, h⟩ := exceptBind_ok h
    obtain ⟨_, -, h⟩ := exceptBind_ok h
    obtain ⟨_, -, h⟩ := exceptBind_ok h
    obtain ⟨sources, -, h⟩ := exceptBind_ok h
    exact ⟨sources, h⟩
  refine ⟨sources, ?_⟩
  unfold Settings.conclude Settings.outcome at hsources
  split at hsources
  · split at hsources
    · rename_i hchecked
      cases hsources
      exact check_of_checkSources hchecked
    · cases hsources
    · cases hsources
  · cases hsources

/-- Settings that were loaded have a time limit that is not refused. -/
theorem hasTimeout_of_load
    {surroundings : Settings.Surroundings} {root : String} {extra : Option String}
    {environment : List (String × String)} {given : Value} {settings : Settings}
    (h : Settings.load surroundings root extra environment given = .ok settings) :
    settings.linting.HasTimeout := by
  obtain ⟨_, hchecked⟩ := check_of_load h
  obtain ⟨-, -, hlinting⟩ := Settings.check_eq_ok_iff.mp hchecked
  obtain ⟨_, hlinting⟩ | hdefault := hlinting.checked_or_default
  · exact hasTimeout_of_check hlinting
  · rw [hdefault]
    rintro x ⟨⟩

end Loaded

section Overlay

variable {s : LintSettings}

theorem timeout_ofReal?
    (h : s.HasTimeout) :
    Check.timeout (.ofReal? s.timeout) = .ok s.timeout := by
  cases htimeout : s.timeout with
  | none =>
      rfl
  | some x =>
      have hx := h x htimeout
      simp [Check.timeout, Value.ofReal?, Check.optional, Check.number,
        Checked.map, Checked.bind, hx]

/-- Laying changes over valid settings changes what was given, and nothing else. -/
theorem overlay_eq
    (h : s.HasTimeout) (c : LintChanges) :
    s.overlay c = .ok (s.changed c) := by
  have htimeout := timeout_ofReal? h
  obtain ⟨path, arguments, runAtFile, useWsl⟩ := c
  have hvalue :
      s.toValue.merge (LintChanges.toValue ⟨path, arguments, runAtFile, useWsl⟩) =
      .map [(.text "path", .text (path.getD s.path)),
        (.text "arguments", .text (arguments.getD s.arguments)),
        (.text "run_at_file_location", .bool (runAtFile.getD s.runAtFile)),
        (.text "use_wsl", .bool (useWsl.getD s.useWsl)),
          (.text "timeout_sec", .ofReal? s.timeout)] := by
    cases path <;> cases arguments <;> cases runAtFile <;> cases useWsl <;> rfl
  rw [LintSettings.overlay, hvalue]
  -- texts and truth values pass their checks by computation, the time limit does by
  -- assumption
  change LintSettings.mk <$> (Check.text (.text _)).inside (.name "path")
    <*> (Check.arguments (.text _)).inside (.name "arguments")
    <*> (Check.bool (.bool _)).inside (.name "run_at_file_location")
    <*> (Check.bool (.bool _)).inside (.name "use_wsl")
    <*> (Check.timeout (.ofReal? s.timeout)).inside (.name "timeout_sec") = _
  rw [htimeout]
  rfl

end Overlay

end HdlLint
