import HdlLint.Text.Integer
import Mathlib.Data.List.TakeWhile
import Mathlib.Tactic

/-!
# Decimal literals of ASCII digits

Integer literals may hold signs, underscores, blanks and digits of every script.  A run of
ASCII digits is the plainest of them: `integer?_run` says that it is read as the number it
denotes, unless it is too long, and `integer?_repr` that the usual digits of a number are
read as that number.
-/

namespace HdlLint
namespace Text

theorem digitOfBase?_digit
    {c : Char}
    (hc : isAsciiDigit c = true) :
    digitOfBase? 10 c = some (c.toNat - '0'.toNat) := by
  simp only [isAsciiDigit, Bool.and_eq_true, decide_eq_true_eq] at hc
  have hzero : digitValue? c = some (c.toNat - 0x30) := by
    have hin : (decide (0x30 ≤ c.toNat) && decide (c.toNat ≤ 0x30 + 9)) = true := by
      simp only [Bool.and_eq_true, decide_eq_true_eq]
      omega
    simp only [digitValue?, digitZeros, List.find?_cons, hin, Option.map_some]
  have hlt : c.toNat - 0x30 < 10 := by omega
  simp [digitOfBase?, hzero, Option.filter, hlt]

theorem not_isSpace_of_digit
    {c : Char}
    (hc : isAsciiDigit c = true) :
    isSpace c = false := by
  simp only [isAsciiDigit, Bool.and_eq_true, decide_eq_true_eq] at hc
  simp only [isSpace, isAsciiBlank, Bool.or_eq_false_iff, Bool.and_eq_false_iff,
    decide_eq_false_iff_not]
  omega

theorem dropWhile_of_head
    {p : Char → Bool} {s : List Char}
    (h : ∀ c ∈ s.head?, p c = false) :
    s.dropWhile p = s := by
  cases s with
  | nil =>
      rfl
  | cons c s =>
      simp [h c rfl]

/-- Nothing is stripped from a text that neither begins nor ends with such a character. -/
theorem stripWhile_of_ends
    {p : Char → Bool} {s : List Char}
    (hhead : ∀ c ∈ s.head?, p c = false)
    (hlast : ∀ c ∈ s.getLast?, p c = false) :
    stripWhile p s = s := by
  unfold stripWhile dropEndWhile
  rw [dropWhile_of_head hhead, dropWhile_of_head (by rwa [List.head?_reverse]),
    List.reverse_reverse]

theorem stripWhile_eq_self
    {p : Char → Bool} {s : List Char}
    (h : ∀ c ∈ s, p c = false) :
    stripWhile p s = s :=
  stripWhile_of_ends (fun c hc => h c (List.mem_of_mem_head? hc)) fun c hc =>
    h c (List.mem_of_getLast? hc)

theorem dropBaseMark_ten
    (s : List Char) :
    dropBaseMark 10 s = s := by
  unfold dropBaseMark
  split
  · simp [baseMark?]
  · rfl

theorem takeSign_digits
    {s : List Char}
    (h : ∀ c ∈ s, isAsciiDigit c = true) :
    takeSign s = (false, s) := by
  unfold takeSign
  split
  · exact absurd (h '-' List.mem_cons_self) (by decide)
  · exact absurd (h '+' List.mem_cons_self) (by decide)
  · rfl

theorem wellSeparated_digits
    {s : List Char} {afterDigit : Bool}
    (h : ∀ c ∈ s, isAsciiDigit c = true)
    (hne : s ≠ [] ∨ afterDigit = true) :
    wellSeparated afterDigit s = true := by
  induction s generalizing afterDigit with
  | nil =>
      simpa [wellSeparated] using hne
  | cons c s ih =>
      have hc : c ≠ '_' := by
        rintro rfl
        exact absurd (h '_' List.mem_cons_self) (by decide)
      rw [wellSeparated, if_neg hc]
      exact ih (fun x hx => h x (List.mem_cons_of_mem _ hx)) (Or.inr rfl)

/-- The value of a run of ASCII digits, as the core library reads it. -/
theorem ofDigits_digits
    (s : List Char) :
    ofDigits 10 (s.map fun c => c.toNat - '0'.toNat) = Nat.ofDigitChars 10 s 0 := by
  unfold ofDigits
  rw [List.foldl_map, Nat.ofDigitChars_eq_foldl]
  congr 1
  funext n c
  rw [Nat.mul_comm]

/-- A run of ASCII digits has the form of a literal; it is read as the number it denotes
unless it is too long. -/
theorem readMagnitude_digits
    {s : List Char}
    (text : String)
    (hne : s ≠ [])
    (h : ∀ c ∈ s, isAsciiDigit c = true) :
    readMagnitude 10 text s =
      if maxDigits < s.length then .error (.tooLong s.length)
        else .ok (Nat.ofDigitChars 10 s 0) := by
  have hrun : ∀ c ∈ s, ((digitOfBase? 10 c).isSome || decide (c = '_')) = true := by
    intro c hc
    simp [digitOfBase?_digit (h c hc)]
  have hdigits :
      s.filterMap (digitOfBase? 10) = s.map fun c => c.toNat - '0'.toNat := by
    rw [List.filterMap_congr
      (fun c hc => digitOfBase?_digit (h c hc)), ← List.filterMap_eq_map]
    rfl
  have hseparated : wellSeparated false s = true := wellSeparated_digits h (Or.inl hne)
  have hwhole := List.takeWhile_eq_self_iff.mpr hrun
  have hrest := List.dropWhile_eq_nil_iff.mpr hrun
  simp only [readMagnitude, hwhole, hrest, hseparated, hdigits,
    List.length_map, ofDigits_digits]
  by_cases hlong : maxDigits < s.length <;> simp [hlong]

theorem integer?_run
    {s : List Char}
    (hne : s ≠ [])
    (h : ∀ c ∈ s, isAsciiDigit c = true) :
    integer? (String.ofList s) =
      if maxDigits < s.length then none else some (Nat.ofDigitChars 10 s 0 : Int) := by
  have hstrip : stripWhile isSpace s = s :=
    stripWhile_eq_self fun c hc => not_isSpace_of_digit (h c hc)
  unfold integer? readInteger
  rw [String.toList_ofList, hstrip, takeSign_digits h]
  simp only [dropBaseMark_ten, readMagnitude_digits _ hne h]
  by_cases hlong : maxDigits < s.length
  · rw [if_pos hlong, if_pos hlong]
    rfl
  · rw [if_neg hlong, if_neg hlong]
    rfl

/-- A run of ASCII digits that is not too long is read as the number it denotes. -/
theorem integer?_digits
    {s : List Char}
    (hne : s ≠ [])
    (h : ∀ c ∈ s, isAsciiDigit c = true)
    (hlen : s.length ≤ maxDigits) :
    integer? (String.ofList s) = some (Nat.ofDigitChars 10 s 0 : Int) := by
  rw [integer?_run hne h, if_neg (Nat.not_lt.mpr hlen)]

theorem isAsciiDigit_of_mem_toDigits
    {n : Nat} {c : Char}
    (hc : c ∈ Nat.toDigits 10 n) :
    isAsciiDigit c = true := by
  have hdigit := Nat.isDigit_of_mem_toDigits (by decide) (by decide) hc
  simp only [Char.isDigit, Bool.and_eq_true, decide_eq_true_eq, ge_iff_le,
    UInt32.le_iff_toNat_le] at hdigit
  simp only [isAsciiDigit, Bool.and_eq_true, decide_eq_true_eq]
  exact hdigit

/-- The digits of a number are read as that number. -/
theorem integer?_repr
    {n : Nat}
    (hlen : n.repr.length ≤ maxDigits) :
    integer? n.repr = some (n : Int) := by
  have hread :=
    integer?_digits (s := Nat.toDigits 10 n) Nat.toDigits_ne_nil
      (fun c hc => isAsciiDigit_of_mem_toDigits hc)
      (by simpa [Nat.repr_eq_ofList_toDigits] using hlen)
  rw [Nat.ofDigitChars_toDigits (by decide) (by decide)] at hread
  exact hread

end Text
end HdlLint
