import HdlLint.Proofs.Number.ShortestDigits
import HdlLint.Proofs.Text.DecimalLiteral
import HdlLint.Value.Json

/-!
# JSON numbers are read back

An integer is read back if it does not have more digits than integers may have.  A number
with a point or an exponent is read as a number; the digits that are written for any
number have this form.  What follows a number must not go on with it.

* `readNumber?_decimal`: a text in the form of a decimal is read as an integer or as a
  number.
* `readPlain?_int`: an integer is read back.
* `isDecimal_render`: the form of what is written for a number.
* `exists_readPlain?_finite`: what is written for a finite number is read as a number.
-/

namespace HdlLint
namespace Value
namespace Json

open Text (isAsciiDigit)

/-- A text that does not go on with a number. -/
def EndsNumber (rest : List Char) : Prop :=
  ∀ c ∈ rest.head?, isAsciiDigit c = false ∧ c ≠ '.' ∧ c ≠ 'e' ∧ c ≠ 'E'

/-- One or more digits. -/
structure IsDigits (ds : List Char) : Prop where
  ne_nil : ds ≠ []
  all_digits : ∀ c ∈ ds, isAsciiDigit c = true

/-- Digits that do not begin with a zero, unless it is the only one. -/
structure IsWhole (ds : List Char) : Prop extends IsDigits ds where
  leading : ds = ['0'] ∨ ds.head? ≠ some '0'

/-- Nothing, or a point and digits. -/
def IsFraction (s : List Char) : Prop :=
  s = [] ∨ ∃ ds : List Char, IsDigits ds ∧ s = '.' :: ds

/-- Nothing, or a mark, a sign and digits. -/
def IsExponent (s : List Char) : Prop :=
  s = [] ∨ ∃ (sign : Char) (ds : List Char),
    (sign = '+' ∨ sign = '-') ∧ IsDigits ds ∧ s = 'e' :: sign :: ds

/-- The parts of an unsigned decimal. -/
structure IsDecimal (whole fraction exponent : List Char) : Prop where
  whole : IsWhole whole
  fraction : IsFraction fraction
  exponent : IsExponent exponent

/-- A sign before digits. -/
def signed (negative : Bool) (s : List Char) : List Char :=
  if negative then '-' :: s else s

theorem signed_append
    (negative : Bool) (s t : List Char) :
    signed negative s ++ t = signed negative (s ++ t) := by
  cases negative <;> rfl

section Parts

variable {ds rest fraction exponent whole s : List Char}

theorem endsNumber_nil :
    EndsNumber [] := by
  rintro c ⟨⟩

theorem EndsNumber.notDigit
    (h : EndsNumber rest) :
    ∀ c ∈ rest.head?, isAsciiDigit c = false :=
  fun c hc => (h c hc).1

theorem takeDigits_digits
    (hds : ∀ c ∈ ds, isAsciiDigit c = true)
    (hrest : ∀ c ∈ rest.head?, isAsciiDigit c = false) :
    takeDigits (ds ++ rest) = (ds, rest) := by
  have hend : rest.takeWhile isAsciiDigit = [] ∧ rest.dropWhile isAsciiDigit = rest := by
    cases rest with
    | nil => exact ⟨rfl, rfl⟩
    | cons c rest => simp [hrest c rfl]
  rw [takeDigits, List.takeWhile_append_of_pos hds, List.dropWhile_append_of_pos hds,
    hend.1, hend.2, List.append_nil]

theorem takeWhole?_whole
    (h : IsWhole ds)
    (hrest : ∀ c ∈ rest.head?, isAsciiDigit c = false) :
    takeWhole? (ds ++ rest) = some (ds, rest) := by
  rcases h.leading with rfl | hlead
  · rfl
  · obtain ⟨d, ds, rfl⟩ := List.exists_cons_of_ne_nil h.ne_nil
    have hd : d ≠ '0' := by simpa using hlead
    rw [List.cons_append, takeWhole?,
      if_pos (h.all_digits d List.mem_cons_self), ← List.cons_append,
      takeDigits_digits h.all_digits hrest]
    simpa using hd

theorem takeFraction_fraction
    (h : IsFraction fraction)
    (hrest : ∀ c ∈ rest.head?, isAsciiDigit c = false ∧ c ≠ '.') :
    takeFraction (fraction ++ rest) = (fraction, rest) := by
  rcases h with rfl | ⟨ds, hds, rfl⟩
  · cases rest with
    | nil => rfl
    | cons c rest =>
        have hc := (hrest c rfl).2
        unfold takeFraction
        split
        · rename_i heq
          cases heq
          exact absurd rfl hc
        · rfl
  · obtain ⟨d, ds', rfl⟩ := List.exists_cons_of_ne_nil hds.ne_nil
    have htake := takeDigits_digits hds.all_digits fun c hc => (hrest c hc).1
    simp only [List.cons_append] at htake ⊢
    simp [takeFraction, htake]

theorem takeExponent_exponent
    (h : IsExponent exponent)
    (hrest : EndsNumber rest) :
    takeExponent (exponent ++ rest) = (exponent, rest) := by
  rcases h with rfl | ⟨sign, ds, hsign, hds, rfl⟩
  · cases rest with
    | nil => rfl
    | cons c rest =>
        obtain ⟨-, -, he, hE⟩ := hrest c rfl
        simp [takeExponent, he, hE]
  · obtain ⟨d, ds', rfl⟩ := List.exists_cons_of_ne_nil hds.ne_nil
    have htake := takeDigits_digits hds.all_digits hrest.notDigit
    simp only [List.cons_append] at htake ⊢
    rcases hsign with rfl | rfl <;> simp [takeExponent, htake]

/-- An exponent does not go on with the digits before it. -/
theorem IsExponent.endsFraction
    (h : IsExponent exponent)
    (hrest : EndsNumber rest) :
    ∀ c ∈ (exponent ++ rest).head?, isAsciiDigit c = false ∧ c ≠ '.' := by
  rcases h with rfl | ⟨sign, ds, -, -, rfl⟩
  · exact fun c hc => ⟨(hrest c hc).1, (hrest c hc).2.1⟩
  · rintro c ⟨⟩
    decide

theorem IsFraction.endsWhole
    (h : IsFraction fraction)
    (hrest : ∀ c ∈ rest.head?, isAsciiDigit c = false ∧ c ≠ '.') :
    ∀ c ∈ (fraction ++ rest).head?, isAsciiDigit c = false := by
  rcases h with rfl | ⟨ds, -, rfl⟩
  · exact fun c hc => (hrest c hc).1
  · rintro c ⟨⟩
    decide

theorem asciiDigit?_isSome
    (c : Char) :
    (Binary64.asciiDigit? c).isSome = isAsciiDigit c := by
  rw [Binary64.asciiDigit?]
  cases isAsciiDigit c <;> rfl

theorem takeDigits_values
    (hds : IsDigits ds)
    (hrest : ∀ c ∈ rest.head?, isAsciiDigit c = false) :
    ∃ ns : List Nat, ns ≠ [] ∧
      Binary64.takeDigits Binary64.asciiDigit? (ds ++ rest) = (ns, rest) := by
  obtain ⟨hwhile, hdrop⟩ := Prod.mk.inj (takeDigits_digits hds.all_digits hrest)
  refine ⟨ds.filterMap Binary64.asciiDigit?, ?_, ?_⟩
  · obtain ⟨d, ds, rfl⟩ := List.exists_cons_of_ne_nil hds.ne_nil
    have hd := hds.all_digits d List.mem_cons_self
    simp [Binary64.asciiDigit?, hd]
  · simp only [Binary64.takeDigits, asciiDigit?_isSome, hwhile, hdrop]

theorem readExponent?_exponent
    {sign : Char}
    (hsign : sign = '+' ∨ sign = '-')
    (hds : IsDigits ds) :
    ∃ e : Int, Binary64.readExponent? Binary64.asciiDigit? (sign :: ds) =
      some (e, []) := by
  obtain ⟨ns, hns, htake⟩ := takeDigits_values hds endsNumber_nil.notDigit
  rw [List.append_nil] at htake
  rcases hsign with rfl | rfl <;> simp [Binary64.readExponent?, htake, hns]

/-- A decimal is worth a number. -/
theorem exists_ofDecimal?
    (h : IsDecimal whole fraction exponent) (negative : Bool) :
    ∃ x : Binary64,
      Binary64.ofDecimal? Binary64.asciiDigit? negative
        (whole ++ (fraction ++ exponent)) = some x := by
  have hend : ∀ c ∈ exponent.head?, isAsciiDigit c = false ∧ c ≠ '.' := by
    simpa using h.exponent.endsFraction endsNumber_nil
  obtain ⟨ns, hns, hwhole⟩ :=
    takeDigits_values h.whole.toIsDigits (h.fraction.endsWhole hend)
  rcases h.fraction with rfl | ⟨ds, hds, rfl⟩ <;> rcases h.exponent with
    rfl | ⟨sign, es, hsign, hes, rfl⟩ <;>
    simp only [List.nil_append, List.append_nil, List.cons_append] at hwhole ⊢
  case inl.inl =>
    simp [Binary64.ofDecimal?, hwhole, hns]
  case inl.inr =>
    obtain ⟨e, he⟩ := readExponent?_exponent hsign hes
    simp [Binary64.ofDecimal?, hwhole, hns, he]
  case inr.inl =>
    obtain ⟨fs, -, hfs⟩ := takeDigits_values hds fun c hc => (hend c hc).1
    rw [List.append_nil] at hfs
    simp [Binary64.ofDecimal?, hwhole, hns, hfs]
  case inr.inr =>
    obtain ⟨fs, -, hfs⟩ := takeDigits_values hds fun c hc => (hend c hc).1
    obtain ⟨e, he⟩ := readExponent?_exponent hsign hes
    simp [Binary64.ofDecimal?, hwhole, hns, hfs, he]

end Parts

section Numbers

variable {whole fraction exponent rest : List Char}

/-- What the parts of a number are read as. -/
def ofParts? (negative : Bool) (whole fraction exponent : List Char) : Option Value :=
  if fraction.isEmpty && exponent.isEmpty then
    if maxDigits < whole.length then none
    else
      let n := Text.ofDigits 10 (whole.filterMap Text.radixDigit?)
      some (.int (if negative then -(n : Int) else n))
  else (Binary64.ofDecimal? Binary64.asciiDigit? negative
    (whole ++ fraction ++ exponent)).map .real

theorem map_ofParts?
    (negative : Bool) (whole fraction exponent rest : List Char) :
    (ofParts? negative whole fraction exponent).map (·, rest) =
      if fraction.isEmpty && exponent.isEmpty then
        if maxDigits < whole.length then none
        else
          some (.int
            (if negative then -(Text.ofDigits 10 (whole.filterMap Text.radixDigit?) : Int)
            else Text.ofDigits 10 (whole.filterMap Text.radixDigit?)), rest)
      else
        (Binary64.ofDecimal? Binary64.asciiDigit? negative
          (whole ++ fraction ++ exponent)).bind fun x =>
          some (.real x, rest) := by
  unfold ofParts?
  by_cases hparts : (fraction.isEmpty && exponent.isEmpty) = true
  · rw [if_pos hparts, if_pos hparts]
    by_cases hlong : maxDigits < whole.length
    · rw [if_pos hlong, if_pos hlong, Option.map_none]
    · rw [if_neg hlong, if_neg hlong, Option.map_some]
  · rw [if_neg hparts, if_neg hparts, Option.map_map, Option.map_eq_bind]
    rfl

theorem readNumber?_minus
    {s r r' : List Char}
    (hwhole : takeWhole? s = some (whole, r))
    (hfraction : takeFraction r = (fraction, r'))
    (hexponent : takeExponent r' = (exponent, rest)) :
    readNumber? ('-' :: s) = (ofParts? true whole fraction exponent).map (·, rest) := by
  unfold readNumber?
  simp only [hwhole, Option.bind_eq_bind, Option.bind_some, hfraction, hexponent,
    Option.pure_def, if_true]
  rw [map_ofParts?]
  simp only [if_true]

theorem readNumber?_digit
    {d : Char} {ds r r' : List Char}
    (hd : isAsciiDigit d = true)
    (hwhole : takeWhole? (d :: ds) = some (whole, r))
    (hfraction : takeFraction r = (fraction, r'))
    (hexponent : takeExponent r' = (exponent, rest)) :
    readNumber? (d :: ds) = (ofParts? false whole fraction exponent).map (·, rest) := by
  unfold readNumber?
  split
  rename_i negative s hsign
  have hunsigned : negative = false ∧ s = d :: ds := by
    split at hsign
    · rename_i heq
      cases heq
      exact absurd hd (by decide)
    · cases hsign
      exact ⟨rfl, rfl⟩
  obtain ⟨rfl, rfl⟩ := hunsigned
  simp only [hwhole, Option.bind_eq_bind, Option.bind_some, hfraction, hexponent,
    Option.pure_def, Bool.false_eq_true,
    if_false, map_ofParts?]

/-- A decimal is read up to its end. -/
theorem readNumber?_decimal
    (h : IsDecimal whole fraction exponent)
    (hrest : EndsNumber rest) (negative : Bool) :
    readNumber? (signed negative (whole ++ (fraction ++ (exponent ++ rest)))) =
      (ofParts? negative whole fraction exponent).map (·, rest) := by
  have hend := h.exponent.endsFraction hrest
  have hwhole := takeWhole?_whole h.whole (h.fraction.endsWhole hend)
  have hfraction := takeFraction_fraction h.fraction hend
  have hexponent := takeExponent_exponent h.exponent hrest
  obtain ⟨d, ds, hds⟩ := List.exists_cons_of_ne_nil h.whole.ne_nil
  cases negative with
  | true =>
      exact readNumber?_minus hwhole hfraction hexponent
  | false =>
      have hd := h.whole.all_digits d (hds ▸ List.mem_cons_self)
      rw [hds] at hwhole
      rw [signed, if_neg Bool.false_ne_true, hds]
      exact readNumber?_digit hd hwhole hfraction hexponent

/-- Neither a sign nor a digit begins a word. -/
theorem readPlain?_signed
    (h : IsWhole whole) (negative : Bool) (rest : List Char) :
    readPlain? (signed negative (whole ++ rest)) =
      readNumber? (signed negative (whole ++ rest)) := by
  obtain ⟨d, ds, rfl⟩ := List.exists_cons_of_ne_nil h.ne_nil
  have hd := h.all_digits d List.mem_cons_self
  have hne : 'n' ≠ d ∧ 't' ≠ d ∧ 'f' ≠ d ∧ 'N' ≠ d ∧ 'I' ≠ d ∧ '-' ≠ d := by
    refine ⟨?_, ?_, ?_, ?_, ?_, ?_⟩ <;> rintro rfl <;> exact absurd hd (by decide)
  obtain ⟨hn, ht, hf, hN, hI, hminus⟩ := hne
  cases negative <;>
    simp [readPlain?, signed, afterWord?, List.findSome?, List.isPrefixOf, hn,
      ht, hf, hN, hI, hminus]

end Numbers

section Integers

theorem head?_toDigits
    {n : Nat}
    (h : 0 < n) :
    (Nat.toDigits 10 n).head? ≠ some '0' := by
  induction n using Nat.strongRecOn with
  | ind n ih =>
      by_cases hsmall : n < 10
      · rw [Nat.toDigits_of_lt_base hsmall]
        interval_cases n <;> decide
      · have hdiv : 0 < n / 10 := by omega
        rw [Nat.toDigits_of_base_le (by decide) (by omega),
          List.head?_append_of_ne_nil _ Nat.toDigits_ne_nil]
        exact ih (n / 10) (by omega) hdiv

theorem isWhole_toDigits
    (n : Nat) :
    IsWhole (Nat.toDigits 10 n) := by
  refine ⟨⟨Nat.toDigits_ne_nil, fun c hc => Text.isAsciiDigit_of_mem_toDigits hc⟩, ?_⟩
  rcases Nat.eq_zero_or_pos n with rfl | hpos
  · exact Or.inl rfl
  · exact Or.inr (head?_toDigits hpos)

theorem radixDigit?_digit
    {c : Char}
    (h : isAsciiDigit c = true) :
    Text.radixDigit? c = some (c.toNat - '0'.toNat) := by
  simp only [isAsciiDigit, Bool.and_eq_true, decide_eq_true_eq] at h
  simp [Text.radixDigit?, h]

theorem ofDigits_toDigits
    (n : Nat) :
    Text.ofDigits 10 ((Nat.toDigits 10 n).filterMap Text.radixDigit?) = n := by
  rw [List.filterMap_congr fun c hc =>
    radixDigit?_digit (Text.isAsciiDigit_of_mem_toDigits hc)]
  have hmap := Text.ofDigits_digits (Nat.toDigits 10 n)
  rw [Nat.ofDigitChars_toDigits (by decide) (by decide), ← List.filterMap_eq_map] at hmap
  exact hmap

theorem toList_toString_int
    (i : Int) :
    (toString i).toList = signed (i < 0) (Nat.toDigits 10 i.natAbs) := by
  cases i with
  | ofNat n => simp [signed, Int.repr]
  | negSucc n => simp [signed, Int.repr, Int.negSucc_lt_zero]

/-- An integer that does not have more digits than integers may have. -/
def FewDigits (i : Int) : Prop :=
  (Nat.toDigits 10 i.natAbs).length ≤ maxDigits

theorem readPlain?_int
    {i : Int} {rest : List Char}
    (h : FewDigits i)
    (hrest : EndsNumber rest) :
    readPlain? ((toString i).toList ++ rest) = some (.int i, rest) := by
  have hwhole := isWhole_toDigits i.natAbs
  have hdecimal : IsDecimal (Nat.toDigits 10 i.natAbs) [] [] :=
    ⟨hwhole, Or.inl rfl, Or.inl rfl⟩
  have hread := readNumber?_decimal hdecimal hrest (decide (i < 0))
  have hvalue : ofParts? (decide (i < 0)) (Nat.toDigits 10 i.natAbs) [] [] =
      some (.int i) := by
    have hsign : (if i < 0 then -|i| else |i|) = i := by
      rw [← Int.natCast_natAbs]
      omega
    simp [ofParts?, Nat.not_lt.mpr h, ofDigits_toDigits, hsign]
  rw [toList_toString_int, signed_append, readPlain?_signed hwhole]
  rw [hvalue] at hread
  exact hread

end Integers

section Reals

/-- The digits of a decimal: they do not begin with a zero, or they are a zero with the
exponent of one. -/
def Leads (digits : List Char) (first : Int) : Prop :=
  digits.head? ≠ some '0' ∨ digits = ['0'] ∧ first = 0

theorem IsDigits.append_zeros
    {ds : List Char}
    (h : IsDigits ds) (n : Nat) :
    IsDigits (ds ++ List.replicate n '0') ∧ IsDigits (List.replicate n '0' ++ ds) := by
  have hzero : ∀ c ∈ List.replicate n '0', isAsciiDigit c = true := by
    intro c hc
    obtain rfl := List.eq_of_mem_replicate hc
    rfl
  refine ⟨⟨by simp [h.ne_nil], fun c hc => ?_⟩, ⟨by simp [h.ne_nil], fun c hc => ?_⟩⟩
  · exact (List.mem_append.mp hc).elim (h.all_digits c) (hzero c)
  · exact (List.mem_append.mp hc).elim (hzero c) (h.all_digits c)

theorem isDigits_zero : IsDigits ['0'] where
  ne_nil := by simp
  all_digits := by simp [isAsciiDigit]

theorem isDecimal_positional
    {digits : List Char} {first : Int}
    (hdigits : IsDigits digits)
    (hlead : Leads digits first) :
    ∃ whole fraction : List Char,
      IsDecimal whole fraction [] ∧ fraction ≠ [] ∧
        Binary64.positional digits first = whole ++ fraction := by
  unfold Binary64.positional
  by_cases hfirst : first < 0
  · rw [if_pos hfirst]
    exact ⟨['0'], _, ⟨⟨isDigits_zero, Or.inl rfl⟩,
      Or.inr ⟨_, (hdigits.append_zeros (-first - 1).toNat).2, rfl⟩, Or.inl rfl⟩, by simp,
        rfl⟩
  · rw [if_neg hfirst]
    obtain ⟨d, ds, rfl⟩ := List.exists_cons_of_ne_nil hdigits.ne_nil
    have htake : IsDigits ((d :: ds).take (first.toNat + 1)) :=
      ⟨by simp, fun c hc => hdigits.all_digits c (List.mem_of_mem_take hc)⟩
    have hwhole :
        IsWhole ((d :: ds).take (first.toNat + 1) ++
          List.replicate (first.toNat + 1 - (d :: ds).length) '0') := by
      refine ⟨(htake.append_zeros _).1, ?_⟩
      rcases hlead with hne | ⟨hzero, rfl⟩
      · exact Or.inr (by simpa using hne)
      · obtain ⟨rfl, rfl⟩ := List.cons.inj hzero
        exact Or.inl rfl
    have hfraction : IsDigits (if ((d :: ds).drop (first.toNat + 1)).isEmpty then ['0']
        else (d :: ds).drop (first.toNat + 1)) := by
      by_cases hnone : (d :: ds).drop (first.toNat + 1) = []
      · simpa [hnone] using isDigits_zero
      · rw [if_neg (by simpa using hnone)]
        exact ⟨hnone, fun c hc => hdigits.all_digits c (List.mem_of_mem_drop hc)⟩
    exact ⟨_, _, ⟨hwhole, Or.inr ⟨_, hfraction, rfl⟩, Or.inl rfl⟩, by simp, rfl⟩

theorem isDecimal_scientific
    {digits : List Char} (first : Int)
    (hdigits : IsDigits digits) :
    ∃ whole fraction exponent : List Char,
      IsDecimal whole fraction exponent ∧ exponent ≠ [] ∧
        Binary64.scientific digits first = whole ++ (fraction ++ exponent) := by
  have hexponent : ∀ places : List Char, IsDigits places →
      IsExponent ('e' :: (if first < 0 then '-' else '+') ::
        List.replicate (2 - places.length) '0' ++ places) := by
    intro places hplaces
    refine Or.inr ⟨_, _, ?_, (hplaces.append_zeros _).2, rfl⟩
    by_cases hfirst : first < 0 <;> simp [hfirst]
  have hplaces := hexponent (Nat.toDigits 10 first.natAbs) (isWhole_toDigits _).toIsDigits
  have hone : ∀ d ∈ digits, IsWhole [d] := by
    intro d hd
    refine ⟨⟨by simp, by simpa using hdigits.all_digits d hd⟩, ?_⟩
    by_cases hzero : d = '0' <;> simp [hzero]
  unfold Binary64.scientific
  rw [Nat.toString_eq_repr, Nat.toList_repr]
  match digits, hdigits, hone with
  | [d], _, hone =>
      exact ⟨[d], [], _, ⟨hone d (by simp), Or.inl rfl, hplaces⟩, by simp, rfl⟩
  | d :: d' :: r, hdigits, hone =>
      have hrest : IsDigits (d' :: r) :=
        ⟨by simp, fun c hc => hdigits.all_digits c (List.mem_cons_of_mem _ hc)⟩
      exact ⟨[d], '.' :: d' :: r, _,
        ⟨hone d (by simp), Or.inr ⟨_, hrest, rfl⟩, hplaces⟩, by simp, by simp⟩

/-- What is written for a finite number is a decimal with a point or an exponent. -/
theorem isDecimal_render
    (negative : Bool) (m : Nat) (e : Int) :
    ∃ whole fraction exponent : List Char,
      IsDecimal whole fraction exponent ∧ (fraction ≠ [] ∨ exponent ≠ []) ∧
        ((Binary64.finite negative m e).render Binary64.documentLayout).toList =
          signed negative (whole ++ (fraction ++ exponent)) := by
  suffices hbody : ∀ body : List Char,
      (∃ whole fraction exponent : List Char, IsDecimal whole fraction exponent ∧
        (fraction ≠ [] ∨ exponent ≠ []) ∧
        body = whole ++ (fraction ++ exponent)) →
      ∃ whole fraction exponent : List Char, IsDecimal whole fraction exponent ∧
        (fraction ≠ [] ∨ exponent ≠ []) ∧
        (String.ofList (if negative then '-' :: body else body)).toList =
          signed negative (whole ++ (fraction ++ exponent)) by
    refine hbody _ ?_
    simp only [Nat.toString_eq_repr, Nat.toList_repr]
    split_ifs with hzero
    · exact ⟨['0'], ['.', '0'], [],
        ⟨isWhole_toDigits 0, Or.inr ⟨['0'], (isWhole_toDigits 0).toIsDigits, rfl⟩,
          Or.inl rfl⟩,
        Or.inl (by simp), rfl⟩
    · have hlead : Leads (Nat.toDigits 10 (Binary64.shortest m e).digits)
          (Binary64.shortest m e).exponent := by
        rcases Binary64.shortest_digits (e := e) hzero with hne | hnone
        · exact Or.inl (head?_toDigits (Nat.pos_of_ne_zero hne))
        · rw [hnone]
          exact Or.inr ⟨rfl, rfl⟩
      obtain ⟨whole, fraction, hdecimal, hne, hbody⟩ :=
        isDecimal_positional (isWhole_toDigits _).toIsDigits hlead
      exact ⟨whole, fraction, [], hdecimal,
        Or.inl hne, by rw [List.append_nil]; exact hbody⟩
    · obtain ⟨whole, fraction, exponent, hdecimal, hne, hbody⟩ :=
        isDecimal_scientific (Binary64.shortest m e).exponent
          (isWhole_toDigits (Binary64.shortest m e).digits).toIsDigits
      exact ⟨whole, fraction, exponent, hdecimal, Or.inr hne, hbody⟩
  rintro body ⟨whole, fraction, exponent, hdecimal, hne, rfl⟩
  refine ⟨whole, fraction, exponent, hdecimal, hne, ?_⟩
  rw [String.toList_ofList]
  rfl

/-- What is written for a finite number is read as a number. -/
theorem exists_readPlain?_finite
    (negative : Bool) (m : Nat) (e : Int) :
    ∃ y : Binary64, ∀ rest : List Char, EndsNumber rest →
      readPlain? (((Binary64.finite negative m e).render
        Binary64.documentLayout).toList ++ rest) = some (.real y, rest) := by
  obtain ⟨whole, fraction, exponent, hdecimal, hne, htext⟩ :=
    isDecimal_render negative m e
  obtain ⟨y, hy⟩ := exists_ofDecimal? hdecimal negative
  refine ⟨y, fun rest hrest => ?_⟩
  have hparts : ¬ (fraction.isEmpty && exponent.isEmpty) = true := by
    rcases hne with hne | hne <;> simp [hne]
  have hread := readNumber?_decimal hdecimal hrest negative
  rw [ofParts?, if_neg hparts, List.append_assoc, hy] at hread
  rw [htext, signed_append, List.append_assoc, List.append_assoc,
    readPlain?_signed hdecimal.whole, hread]
  rfl

end Reals

end Json
end Value
end HdlLint
