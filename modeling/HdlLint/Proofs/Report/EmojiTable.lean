import HdlLint.Proofs.Text.DecimalLiteral
import HdlLint.Report.Markup
import Mathlib

/-!
# The table of emoji

Two things are needed of the table: no emoji holds a character to which a screen gives a
meaning of its own, and only a few names of emoji are numbers.

* `isRegular_of_lookup`: what the table gives.
* `not_isMark_of_decode?`: an emoji holds no mark.
* `decode?_of_digits`: the names of emoji that are numbers.
-/

namespace HdlLint
namespace Report

/-- A character to which a screen gives a meaning: a bracket, a backslash or a colon, or
one that is not shown. -/
def isMark (c : Char) : Bool :=
  c = '[' || c = ']' || c = '\\' || c = ':' || Markup.isHidden c

namespace Emoji

section Table

/-- Lines, and the characters with which they are spelled. -/
inductive AreSpelled : List String → List (List Char) → Prop
  | nil : AreSpelled [] []
  | cons {lines : List String} {l : List Char} {ls : List (List Char)} :
      AreSpelled lines ls → AreSpelled (String.ofList l :: lines) (l :: ls)

theorem AreSpelled.eq_map
    {lines : List String} {ls : List (List Char)}
    (h : AreSpelled lines ls) :
    ls = lines.map String.toList := by
  induction h with
  | nil => rfl
  | cons _ ih => rw [List.map_cons, String.toList_ofList, ← ih]

/-- The names of emoji that are numbers. -/
def numericNames : List (List Char) :=
  [['1', '0', '0'], ['1', '2', '3', '4']]

/-- An emoji without marks, behind a name that is no number but for a few. -/
def isRegular (e : List Char × List Char) : Bool :=
  (e.1.any (fun c => !Text.isAsciiDigit c) || numericNames.contains e.1) &&
    e.2.all fun c => !isMark c

theorem areRegular_of_areSpelled
    {lines : List String} {ls : List (List Char)}
    (h : AreSpelled lines ls)
    (hls : (entries ls).all isRegular = true) :
    (entries (lines.map String.toList)).all isRegular = true :=
  h.eq_map ▸ hls

theorem areRegular_table :
    table.all isRegular = true := by
  -- the lines are spelled out first, so that characters are looked at and no texts
  apply areRegular_of_areSpelled
  · unfold tableLines
    repeat' constructor
  · decide +kernel

theorem isRegular_of_lookup
    {name emoji : List Char}
    (h : table.lookup name = some emoji) :
    isRegular (name, emoji) = true := by
  obtain ⟨before, after, htable, -⟩ := List.lookup_eq_some_iff.mp h
  exact List.all_eq_true.mp areRegular_table _ (by simp [htable])

end Table

section Codes

variable {code emoji : List Char}

theorem not_isMark_of_named?
    {name : List Char}
    (h : named? name = some emoji) :
    ∀ c ∈ emoji, isMark c = false := by
  unfold named? at h
  have hregular := isRegular_of_lookup h
  simp only [isRegular, Bool.and_eq_true, List.all_eq_true, Bool.not_eq_true'] at hregular
  exact hregular.2

theorem not_isMark_of_decode?
    (h : decode? code = some emoji) :
    ∀ c ∈ emoji, isMark c = false := by
  unfold decode? at h
  split at h
  · rename_i ending selector hvariant
    obtain ⟨named, hnamed, rfl⟩ := Option.map_eq_some_iff.mp h
    have hselector : ∀ v ∈ variants, isMark v.2 = false := by
      simp [variants, isMark, Markup.isHidden]
    intro c hc
    rcases List.mem_append.mp hc with hc | hc
    · exact not_isMark_of_named? hnamed c hc
    · obtain rfl := List.mem_singleton.mp hc
      exact hselector _ (List.mem_of_find?_eq_some hvariant)
  · exact not_isMark_of_named? h

theorem lowerChars_of_digits
    (h : ∀ c ∈ code, Text.isAsciiDigit c = true) (flag : Bool) :
    Text.lowerChars flag code = code := by
  induction code generalizing flag with
  | nil => rfl
  | cons c code ih =>
      rw [List.forall_mem_cons] at h
      obtain ⟨hdigit, hrest⟩ := h
      simp only [Text.isAsciiDigit, Bool.and_eq_true, decide_eq_true_eq] at hdigit
      have hsmall : c.isUpper = false := by
        simp [Char.isUpper, UInt32.le_iff_toNat_le]
        omega
      have hlower : Text.lowerForms flag c code = [c] := by
        rw [Text.lowerForms, if_neg (by rintro rfl; exact absurd hdigit.2 (by decide)),
          if_neg (by rintro rfl; exact absurd hdigit.2 (by decide)),
            Text.lowerChar_of_lt (by omega),
          Char.toLower_eq_of_not_isUpper (by simp [hsmall])]
      rw [Text.lowerChars, hlower, ih hrest, List.singleton_append]

/-- A number that is the name of an emoji is one of a few. -/
theorem decode?_of_digits
    (h : ∀ c ∈ code, Text.isAsciiDigit c = true)
    (hne : code ∉ numericNames) :
    decode? code = none := by
  have hvariant : variant? code = none := by
    -- the endings hold a hyphen
    have hhyphen : ∀ v ∈ variants, '-' ∈ v.1 := by
      simp [variants]
    refine List.find?_eq_none.mpr fun v hv hsuffix => ?_
    have hmem := (List.isSuffixOf_iff_suffix.mp hsuffix).subset (hhyphen v hv)
    exact absurd (h _ hmem) (by decide)
  unfold decode?
  rw [hvariant]
  simp only [named?, lowerChars_of_digits h]
  by_contra hsome
  obtain ⟨emoji, hemoji⟩ := Option.ne_none_iff_exists'.mp hsome
  have hregular := isRegular_of_lookup hemoji
  have hdigits : code.any (fun c => !Text.isAsciiDigit c) = false := by
    simpa using h
  simp [isRegular, hdigits, hne] at hregular

/-- These numbers are names of emoji. -/
theorem isSome_decode?_of_mem
    (h : code ∈ numericNames) :
    (decode? code).isSome = true := by
  have hnames : ∀ name ∈ numericNames, (decode? name).isSome = true := by
    decide +kernel
  exact hnames code h

end Codes

end Emoji
end Report
end HdlLint
