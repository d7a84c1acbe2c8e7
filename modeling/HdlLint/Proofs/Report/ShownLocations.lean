import HdlLint.Proofs.Report.FittingCells
import HdlLint.Proofs.Report.SeenTexts
import HdlLint.Report.Result

/-!
# Locations on the screen

A diagnostic is shown with its location: the file, the line and the column, with colons
between them.  So the line stands between two colons, where a screen looks for the name of
an emoji; two numbers are such names.

* `Diagnostic.location`: the location of a diagnostic.
* `isLine_location`: a location is laid out as it is if its path is.
* `isVerbatim_location_iff`: the locations that are seen as they are, if no colon stands
  in the path.
-/

namespace HdlLint

open Report Report.Markup

/-- The location of a diagnostic, with line and column counted from one. -/
def Diagnostic.location (d : Diagnostic) : String :=
  d.path ++ ":" ++ toString (d.line + 1) ++ ":" ++ toString (d.column + 1)

/-- The lines whose numbers are names of emoji. -/
def emojiLines : List Int := [100, 1234]

/-- The characters of a number counted from one. -/
def countedDigits (n : Int) : List Char :=
  Nat.toDigits 10 (n + 1).toNat

section Digits

variable {n : Int}

theorem toList_toString_succ
    (h : 0 ≤ n) :
    (toString (n + 1)).toList = countedDigits n := by
  obtain ⟨k, rfl⟩ := Int.eq_ofNat_of_zero_le h
  exact Nat.toList_repr

theorem isAsciiDigit_of_mem_countedDigits
    {c : Char}
    (h : c ∈ countedDigits n) :
    Text.isAsciiDigit c = true :=
  Text.isAsciiDigit_of_mem_toDigits h

theorem isMark_of_isAsciiDigit
    {c : Char}
    (h : Text.isAsciiDigit c = true) :
    isMark c = false :=
  not_isMark_of_class (by decide) h

theorem isNarrow_of_isAsciiDigit
    {c : Char}
    (h : Text.isAsciiDigit c = true) :
    IsNarrow c := by
  simp only [Text.isAsciiDigit, Bool.and_eq_true, decide_eq_true_eq] at h
  exact ⟨by omega, by omega⟩

theorem countedDigits_mem_numericNames_iff
    (h : 0 ≤ n) :
    countedDigits n ∈ Emoji.numericNames ↔ n + 1 ∈ emojiLines := by
  have hdigits : ∀ k : Nat, countedDigits n = Nat.toDigits 10 k ↔ n + 1 = k := by
    intro k
    refine ⟨fun hsame => ?_, fun hsame => by rw [countedDigits, hsame, Int.toNat_natCast]⟩
    have hread := congrArg (Nat.ofDigitChars 10 · 0) hsame
    simp only [countedDigits,
      Nat.ofDigitChars_toDigits (by decide : 1 < 10) (by decide : 10 ≤ 10)] at hread
    omega
  have h100 := hdigits 100
  have h1234 := hdigits 1234
  rw [show Nat.toDigits 10 100 = ['1', '0', '0'] from by decide] at h100
  rw [show Nat.toDigits 10 1234 = ['1', '2', '3', '4'] from by decide] at h1234
  simp [Emoji.numericNames, emojiLines, h100, h1234]

end Digits

section Locations

variable {d : Diagnostic}

/-- Behind the path stand two numbers. -/
theorem toList_location
    (hline : 0 ≤ d.line)
    (hcolumn : 0 ≤ d.column) :
    d.location.toList =
      d.path.toList ++ ':' ::
      (countedDigits d.line ++ ':' :: countedDigits d.column) := by
  rw [Diagnostic.location, String.toList_append, String.toList_append,
    String.toList_append, String.toList_append,
    toList_toString_succ hline, toList_toString_succ hcolumn]
  simp

theorem isLine_location
    (hline : 0 ≤ d.line)
    (hcolumn : 0 ≤ d.column)
    (hpath : ∀ c ∈ d.path.toList, endsLine c = false ∧ c ≠ '\t') :
    IsLine d.location.toList := by
  have hdigit : ∀ {n : Int} {c : Char}, c ∈ countedDigits n → IsNarrow c := fun hc =>
    isNarrow_of_isAsciiDigit (isAsciiDigit_of_mem_countedDigits hc)
  have hcolon : IsNarrow ':' := ⟨by decide, by decide⟩
  have hnarrow : ∀ c ∈ ':' :: (countedDigits d.line ++ ':' :: countedDigits d.column),
      IsNarrow c := by
    simp only [List.mem_cons, List.mem_append]
    rintro c (rfl | hc | rfl | hc)
    exacts [hcolon, hdigit hc, hcolon, hdigit hc]
  obtain ⟨before, c, hbefore⟩ :=
    (List.eq_nil_or_concat' (countedDigits d.column)).resolve_left Nat.toDigits_ne_nil
  have hc : Text.isAsciiDigit c =
      true := isAsciiDigit_of_mem_countedDigits (n := d.column) (by rw [hbefore]; simp)
  have hlast : d.location.toList.getLast? = some c := by
    have hconcat : d.location.toList =
        (d.path.toList ++ ':' :: (countedDigits d.line ++ ':' :: before)) ++ [c] := by
      rw [toList_location hline hcolumn, hbefore]
      simp
    rw [hconcat, List.getLast?_append, List.getLast?_singleton, Option.some_or]
  have hspace : c ≠ ' ' := by
    rintro rfl
    cases hc
  refine ⟨fun x hx => ?_, fun hmem => ?_, dropEndWhile_of_last fun x hx => ?_,
    fun hjoiner => ?_⟩
  · rw [toList_location hline hcolumn, List.mem_append] at hx
    exact hx.elim (fun hx => (hpath x hx).1) fun hx => (hnarrow x hx).endsLine
  · rw [toList_location hline hcolumn, List.mem_append] at hmem
    exact hmem.elim (fun hx => (hpath _ hx).2 rfl) fun hx =>
      absurd (hnarrow _ hx).1 (by decide)
  · rw [hlast] at hx
    obtain rfl := Option.some.inj hx
    exact (isNarrow_of_isAsciiDigit hc).isBlank hspace
  · rw [hlast] at hjoiner
    obtain rfl := Option.some.inj hjoiner
    cases hc

/-- A number between two colons stays as it is unless it is the name of an emoji. -/
theorem written_countedDigits_iff
    {n : Int}
    (h : 0 ≤ n) :
    Emoji.written (countedDigits n) = ':' :: (countedDigits n ++ [':']) ↔
      n + 1 ∉ emojiLines := by
  rw [← countedDigits_mem_numericNames_iff h]
  constructor
  · intro hsame hmem
    obtain ⟨emoji, hemoji⟩ :=
      Option.isSome_iff_exists.mp (Emoji.isSome_decode?_of_mem hmem)
    rw [Emoji.written, hemoji, Option.getD_some] at hsame
    have hcolon :=
      Emoji.not_isMark_of_decode? hemoji ':' (by rw [hsame]; exact List.mem_cons_self)
    cases hcolon
  · intro hmem
    rw [Emoji.written,
      Emoji.decode?_of_digits (fun c hc => isAsciiDigit_of_mem_countedDigits hc) hmem]
    rfl

/-- The locations that are seen as they are, if no colon stands in the path. -/
theorem isVerbatim_location_iff
    (hline : 0 ≤ d.line)
    (hcolumn : 0 ≤ d.column)
    (hcolon : ':' ∉ d.path.toList) :
    IsVerbatim d.location.toList ↔ IsVerbatim d.path.toList ∧
      d.line + 1 ∉ emojiLines := by
  have hcode : ∀ c ∈ countedDigits d.line, Emoji.isCodeChar c = true := by
    intro c hc
    have hdigit := isAsciiDigit_of_mem_countedDigits hc
    have hne : ∀ x : Char, Text.isAsciiDigit x = false → c ≠ x := by
      rintro x hx rfl
      rw [hdigit] at hx
      cases hx
    simp [Emoji.isCodeChar, hne ':' (by decide),
      (isNarrow_of_isAsciiDigit hdigit).isBlank (hne ' ' (by decide))]
  have hcolumnDigits : ':' ∉ countedDigits d.column := by
    intro hmem
    cases isAsciiDigit_of_mem_countedDigits hmem
  have hmarks : ∀ c ∈ ':' :: (countedDigits d.line ++ ':' :: countedDigits d.column),
      isMark c = true → c = ':' := by
    have hno : ∀ {n : Int} {c : Char},
        c ∈ countedDigits n → isMark c = true → c = ':' := by
      intro n c hc hmark
      rw [isMark_of_isAsciiDigit (isAsciiDigit_of_mem_countedDigits hc)] at hmark
      cases hmark
    simp only [List.mem_cons, List.mem_append]
    rintro c (rfl | hc | rfl | hc) hmark
    exacts [rfl, hno hc hmark, rfl, hno hc hmark]
  have hreplace :
      Emoji.replace
      (':' :: (countedDigits d.line ++ ':' :: countedDigits d.column)) none =
      Emoji.written (countedDigits d.line) ++ countedDigits d.column := by
    rw [Emoji.replace, if_pos rfl, Emoji.replace_code hcode,
      Emoji.replace_of_no_colon hcolumnDigits]
    rfl
  have hsplit : ':' :: (countedDigits d.line ++ ':' :: countedDigits d.column) =
      (':' :: (countedDigits d.line ++ [':'])) ++ countedDigits d.column := by
    simp
  rw [toList_location hline hcolumn, isVerbatim_append_iff hcolon hmarks, hreplace,
    hsplit, List.append_cancel_right_eq,
    written_countedDigits_iff hline]

end Locations
end HdlLint
