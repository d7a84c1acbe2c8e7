import HdlLint.Proofs.Settings.RunChanges

/-!
# Time limits

A time limit may be given as a number, a truth value or a text, and is refused if it is at
most zero.  The undefined value is not at most zero, and not greater than zero either: it
is the one limit that is not refused without being positive.

* `Binary64.ofText?_eq_nan_iff`: digits are never read as the undefined value, only its
  word is.
* `Check.number_eq_nan_iff`: the values that are taken for the undefined one.
* `LintSettings.isPositive_timeout_iff`: a time limit that was not refused is positive
  exactly if it was not given by one of them.
-/

namespace HdlLint

namespace Binary64

/-- The word for the undefined value, in any case and after at most one sign. -/
def SpellsNan (s : List Char) : Prop :=
  ∃ sign word : List Char,
    s = sign ++ word ∧ (sign = [] ∨ sign = ['-'] ∨ sign = ['+']) ∧
      word.map Char.toLower = ['n', 'a', 'n']

section Undefined

variable {negative : Bool} {digit? : Char → Option Nat} {s : List Char}

/-- Of the numbers only the undefined one is neither positive nor at most zero. -/
theorem isPositive_iff
    {x : Binary64} :
    x.isPositive = true ↔ x.isNonpositive = false ∧ x ≠ .nan := by
  cases x <;> simp [isPositive, isNonpositive]

theorem ofRatio_ne_nan
    (num den : Nat) :
    ofRatio negative num den ≠ .nan := by
  have hscaled : ∀ (m : Nat) (e : Int),
      (if maxExponent < e then .infinite negative else .finite negative m e) ≠ nan := by
    intro m e
    split <;> rintro ⟨⟩
  unfold ofRatio
  split
  · rintro ⟨⟩
  · exact hscaled _ _

theorem ofInt_ne_nan
    (i : Int) :
    ofInt i ≠ .nan :=
  ofRatio_ne_nan _ _

theorem ofScientific_ne_nan
    (digits : Nat) (exponent : Int) :
    ofScientific negative digits exponent ≠ .nan := by
  unfold ofScientific
  dsimp only
  split
  · exact ofRatio_ne_nan _ _
  · split
    · rintro ⟨⟩
    · split
      · exact ofRatio_ne_nan _ _
      · exact ofRatio_ne_nan _ _

theorem ofDecimal?_ne_nan :
    ofDecimal? digit? negative s ≠ some .nan := by
  have hnumber : ∀ (digits : Nat) (exponent : Int),
      some (ofScientific negative digits exponent) ≠ some .nan :=
    fun digits exponent h => ofScientific_ne_nan digits exponent (Option.some.inj h)
  unfold ofDecimal?
  dsimp only
  -- first the digits after a point, then whether there are any digits, then the exponent
  split
  all_goals
    split
    · rintro ⟨⟩
    · split
      · exact hnumber _ _
      · split
        · split
          · exact hnumber _ _
          · rintro ⟨⟩
        · rintro ⟨⟩

theorem ofWord?_eq_nan_iff :
    ofWord? negative s = some .nan ↔ s.map Char.toLower = ['n', 'a', 'n'] := by
  unfold ofWord?
  have hword : ∀ t : List Char, String.ofList (s.map Char.toLower) = String.ofList t ↔
      s.map Char.toLower = t :=
    fun t => String.ofList_inj
  split
  · rename_i h
    rw [(hword ['i', 'n', 'f']).mp h]
    simp
  · rename_i h
    rw [(hword ['i', 'n', 'f', 'i', 'n', 'i', 't', 'y']).mp h]
    simp
  · rename_i h
    exact iff_of_true rfl ((hword ['n', 'a', 'n']).mp h)
  · rename_i hother
    exact iff_of_false (by rintro ⟨⟩) fun h => hother ((hword ['n', 'a', 'n']).mpr h)

/-- Digits are never read as the undefined value, only its word is. -/
theorem ofText?_eq_nan_iff :
    ofText? digit? s = some .nan ↔ SpellsNan s := by
  have hread : ∀ (negative : Bool) (r : List Char),
      (ofWord? negative r).or (ofDecimal? digit? negative r) = some .nan ↔
        r.map Char.toLower = ['n', 'a', 'n'] := by
    intro negative r
    rw [Option.or_eq_some_iff, ofWord?_eq_nan_iff]
    exact or_iff_left fun h => ofDecimal?_ne_nan h.2
  unfold ofText?
  split
  rename_i negative r hsign
  rw [hread]
  split at hsign
  · cases hsign
    constructor
    · intro h
      exact ⟨['-'], _, rfl, Or.inr (Or.inl rfl), h⟩
    · rintro ⟨sign, word, hs, rfl | rfl | rfl, h⟩
      · rw [List.nil_append] at hs
        subst hs
        simp at h
      · cases hs
        exact h
      · cases hs
  · cases hsign
    constructor
    · intro h
      exact ⟨['+'], _, rfl, Or.inr (Or.inr rfl), h⟩
    · rintro ⟨sign, word, hs, rfl | rfl | rfl, h⟩
      · rw [List.nil_append] at hs
        subst hs
        simp at h
      · cases hs
      · cases hs
        exact h
  · rename_i hminus hplus
    cases hsign
    constructor
    · intro h
      exact ⟨[], _, rfl, Or.inl rfl, h⟩
    · rintro ⟨sign, word, hs, rfl | rfl | rfl, h⟩
      · rwa [hs]
      · exact absurd hs (hminus word)
      · exact absurd hs (hplus word)

end Undefined

end Binary64

namespace Check

/-- The word for the undefined value as a text, with white space around it and single
underscores inside. -/
def WritesNan (s : String) : Prop :=
  ∃ word : List Char,
    dropUnderscores? (Text.stripWhile Text.isSpace s.toList) = some word ∧
      Binary64.SpellsNan word

/-- A value that is taken for the undefined number: that number, or its word as a text or
as bytes. -/
def ReadAsNan : Value → Prop
  | .real x => x = .nan
  | .text s => WritesNan s
  | .bytes bs => ∃ s : String, Text.Utf8.decode bs = .ok s ∧ WritesNan s
  | _ => False

section Numbers

variable {v : Value}

theorem numberOfText?_eq_nan_iff
    {s : String} :
    numberOfText? s = some .nan ↔ WritesNan s := by
  simp only [numberOfText?, WritesNan, Option.bind_eq_some_iff,
    Binary64.ofText?_eq_nan_iff]

theorem numberOfText_eq_ok_iff
    {s : String} {x : Binary64} :
    numberOfText s v = .ok x ↔ numberOfText? s = some x := by
  unfold numberOfText
  split
  · rename_i y hy
    rw [hy, Checked.ok.injEq, Option.some.injEq]
  · rename_i hnone
    rw [hnone]
    exact iff_of_false (by rintro ⟨⟩) (by rintro ⟨⟩)

/-- The values that are taken for the undefined number. -/
theorem number_eq_nan_iff :
    number v = .ok .nan ↔ ReadAsNan v := by
  cases v with
  | real x =>
      exact Checked.ok.injEq x .nan ▸ Iff.rfl
  | bool b =>
      exact iff_of_false (fun h => Binary64.ofInt_ne_nan _ (Checked.ok.inj h)) id
  | int i =>
      refine iff_of_false (fun h => ?_) id
      simp only [number] at h
      split at h
      · exact Binary64.ofInt_ne_nan _ (Checked.ok.inj h)
      · cases h
  | text s =>
      exact numberOfText_eq_ok_iff.trans numberOfText?_eq_nan_iff
  | bytes bs =>
      simp only [number, ReadAsNan]
      cases Text.Utf8.decode bs with
      | error e =>
          exact iff_of_false (by rintro ⟨⟩) (by rintro ⟨_, ⟨⟩, -⟩)
      | ok s =>
          simp only [numberOfText_eq_ok_iff, numberOfText?_eq_nan_iff,
            Except.ok.injEq, exists_eq_left']
  | _ =>
      exact iff_of_false (by rintro ⟨⟩) id

end Numbers

end Check

section Limits

variable {v : Value} {s : LintSettings}

/-- The time limit that was not refused is the undefined number exactly if it was given by
a value taken for it. -/
theorem timeout_eq_nan_iff
    (h : LintSettings.check v = .ok s) :
    s.timeout = some .nan ↔ ∃ limit : Value, v.field? "timeout_sec" = some limit ∧
      Check.ReadAsNan limit := by
  obtain ⟨-, -, -, -, -, htimeout⟩ := LintSettings.check_eq_ok_iff.mp h
  cases hfield : v.field? "timeout_sec" with
  | none =>
      rw [hfield, Settings.Takes] at htimeout
      rw [htimeout]
      exact iff_of_false (by rintro ⟨⟩) (by rintro ⟨_, ⟨⟩, -⟩)
  | some limit =>
      rw [hfield, Settings.Takes, Check.timeout_eq_ok_iff] at htimeout
      simp only [Option.some.injEq, exists_eq_left']
      rw [← Check.number_eq_nan_iff]
      constructor
      · intro hnan
        rw [hnan] at htimeout
        exact (Check.optional_eq_some_iff.mp htimeout.1).2
      · intro hnan
        have hnull : limit ≠ .null := by
          rintro rfl
          cases hnan
        have hsome := Check.optional_eq_some_iff.mpr ⟨hnull, hnan⟩
        rw [htimeout.1] at hsome
        exact Checked.ok.inj hsome

/-- A time limit that was not refused is positive exactly if it was not given by a value
taken for the undefined number. -/
theorem LintSettings.isPositive_timeout_iff
    (h : LintSettings.check v = .ok s) :
    (∀ x ∈ s.timeout, x.isPositive = true) ↔
      ¬ ∃ limit : Value, v.field? "timeout_sec" = some limit ∧ Check.ReadAsNan limit := by
  rw [← timeout_eq_nan_iff h]
  constructor
  · intro hpositive hnan
    cases hpositive .nan hnan
  · intro hnan x hx
    refine Binary64.isPositive_iff.mpr ⟨hasTimeout_of_check h x hx, ?_⟩
    rintro rfl
    exact hnan hx

/-- A time limit written with an underscore and white space around it. -/
theorem LintSettings.isPositive_timeout_iff_text :
    LintSettings.check (.map [(.text "timeout_sec", .text " 1_0 ")]) =
      .ok { timeout := some (.ofInt 10) } ∧
      ∀ x ∈ some (Binary64.ofInt 10), x.isPositive = true := by
  have hcheck : LintSettings.check (.map [(.text "timeout_sec", .text " 1_0 ")]) =
      .ok { timeout := some (.ofInt 10) } := by
    rfl
  refine ⟨hcheck, (LintSettings.isPositive_timeout_iff hcheck).mpr ?_⟩
  rintro ⟨limit, hlimit, hnan⟩
  cases hlimit
  have hnumber : Check.number (.text " 1_0 ") = .ok (.ofInt 10) := by
    rfl
  have hread := Check.number_eq_nan_iff.mpr hnan
  rw [hnumber] at hread
  exact Binary64.ofInt_ne_nan _ (Checked.ok.inj hread)

/-- The undefined number is a time limit that is not refused. -/
theorem LintSettings.undefined_timeout :
    LintSettings.check (.map [(.text "timeout_sec", .text "nan")]) =
      .ok { timeout := some .nan } ∧
      ¬ ∀ x ∈ some Binary64.nan, x.isPositive = true := by
  refine ⟨rfl, fun h => ?_⟩
  cases h .nan rfl

end Limits

end HdlLint
