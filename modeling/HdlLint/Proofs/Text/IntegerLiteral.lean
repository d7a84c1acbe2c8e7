import HdlLint.Proofs.Text.StrippedTexts

/-!
# The grammar of integer literals

An integer literal is derived by

    blank* [sign] digit (['_'] digit)* blank*

where a blank is a character of white space, the information separators not counted among
them, and the digits are decimal digits of any script.  It denotes the number of its
digits in base ten, and it may not have more than 4300 of them.  `SpellsInteger` says this
without the functions that read a literal; the module leads to the equivalence of both.

* `digitValue?_eq_some_iff`: the digits that are found in the table of zeros.
* `spellsDigits_iff`: digits with underscores that stand between two of them.
* `readMagnitude_eq_ok_iff`: the unsigned literals.
* `integer?_eq_some_iff`: a text is read as a number exactly if it spells this number.
-/

namespace HdlLint
namespace Text

/-- A decimal digit of any script and its value: so many places behind the zero of its
script. -/
def IsDigitOf (c : Char) (d : Nat) : Prop :=
  d < 10 ∧ ∃ z ∈ digitZeros, c.toNat = z + d

/-- Digits and their values, with single underscores between some neighbours. -/
inductive SpellsDigits : List Char → List Nat → Prop
  | last
      {c : Char} {d : Nat}
      (hdigit : IsDigitOf c d) :
      SpellsDigits [c] [d]
  | next
      {c : Char} {d : Nat} {s : List Char} {ds : List Nat}
      (hdigit : IsDigitOf c d)
      (hrest : SpellsDigits s ds) :
      SpellsDigits (c :: s) (d :: ds)
  | separated
      {c : Char} {d : Nat} {s : List Char} {ds : List Nat}
      (hdigit : IsDigitOf c d)
      (hrest : SpellsDigits s ds) :
      SpellsDigits (c :: '_' :: s) (d :: ds)

/-- A sign, which may be left out, and its factor. -/
inductive SpellsSign : List Char → Int → Prop
  | absent : SpellsSign [] 1
  | plus : SpellsSign ['+'] 1
  | minus : SpellsSign ['-'] (-1)

/-- An integer literal and its value. -/
inductive SpellsInteger (text : String) : Int → Prop
  | literal
      {front sign digits back : List Char} {factor : Int} {ds : List Nat}
      (htext : text.toList = front ++ (sign ++ digits) ++ back)
      (hblank : ∀ c ∈ front ++ back, isSpace c = true)
      (hsign : SpellsSign sign factor)
      (hdigits : SpellsDigits digits ds)
      (hlength : ds.length ≤ 4300) :
      SpellsInteger text (factor * (Nat.ofDigits 10 ds.reverse : Nat))

section Digits

variable {c : Char} {d : Nat}

/-- The digits of two scripts do not overlap. -/
theorem zeros_apart :
    ∀ z ∈ digitZeros, ∀ z' ∈ digitZeros, z = z' ∨ z + 9 < z' ∨ z' + 9 < z := by
  decide +kernel

theorem digitValue?_eq_some_iff :
    digitValue? c = some d ↔ IsDigitOf c d := by
  unfold digitValue? IsDigitOf
  rw [Option.map_eq_some_iff]
  constructor
  · rintro ⟨z, hfound, rfl⟩
    have hz := List.find?_some hfound
    simp only [Bool.and_eq_true, decide_eq_true_eq] at hz
    exact ⟨by omega, z, List.mem_of_find?_eq_some hfound, by omega⟩
  · rintro ⟨hd, z, hmem, hc⟩
    have hsome : (digitZeros.find? fun z => z ≤ c.toNat && c.toNat ≤ z + 9).isSome =
        true := by
      rw [List.find?_isSome]
      refine ⟨z, hmem, ?_⟩
      simp only [Bool.and_eq_true, decide_eq_true_eq]
      omega
    obtain ⟨z', hfound⟩ := Option.isSome_iff_exists.mp hsome
    have hz' := List.find?_some hfound
    simp only [Bool.and_eq_true, decide_eq_true_eq] at hz'
    have hapart := zeros_apart z hmem z' (List.mem_of_find?_eq_some hfound)
    exact ⟨z', hfound, by omega⟩

/-- In base ten the letters are no digits. -/
theorem digitOfBase?_ten :
    digitOfBase? 10 = digitValue? := by
  funext c
  unfold digitOfBase?
  cases hc : digitValue? c with
  | some d =>
      have hd : d < 10 := (digitValue?_eq_some_iff.mp hc).1
      simp [Option.filter, hd]
  | none =>
      -- a digit that the other reader takes is an ASCII digit, which stands in the table
      have hascii : ¬ (0x30 ≤ c.toNat ∧ c.toNat ≤ 0x39) := by
        intro h
        have hdigit : IsDigitOf c (c.toNat - 0x30) :=
          ⟨by omega, 0x30, by decide, by omega⟩
        rw [digitValue?_eq_some_iff.mpr hdigit] at hc
        cases hc
      rw [Option.none_or, Option.filter_eq_none_iff]
      intro d hd
      unfold radixDigit? at hd
      split_ifs at hd with h09 hlower hupper
      · simp only [Bool.and_eq_true, decide_eq_true_eq] at h09
        exact absurd h09 hascii
      · obtain rfl := Option.some.inj hd
        simp
      · obtain rfl := Option.some.inj hd
        simp

/-- No digit is white space. -/
theorem IsDigitOf.not_isSpace
    (h : IsDigitOf c d) :
    isSpace c = false := by
  obtain ⟨hd, z, hz, hc⟩ := h
  have hgaps : ∀ z ∈ digitZeros,
      z = 0x30 ∨ (0x660 ≤ z ∧ z ≤ 0x1090) ∨ (0x17E0 ≤ z ∧ z ≤ 0x1C50) ∨ 0xA620 ≤ z := by
    decide
  have hgap := hgaps z hz
  simp only [isSpace, isAsciiBlank, Bool.or_eq_false_iff, Bool.and_eq_false_iff,
    decide_eq_false_iff_not]
  omega

end Digits

section Runs

variable {s : List Char} {ds : List Nat}

theorem not_isDigitOf
    {c : Char}
    (hc : digitValue? c = none) (d : Nat) :
    ¬ IsDigitOf c d := by
  rw [← digitValue?_eq_some_iff, hc]
  rintro ⟨⟩

theorem SpellsDigits.exists_cons
    (h : SpellsDigits s ds) :
    ∃ (c : Char) (d : Nat) (r : List Char), s = c :: r ∧ IsDigitOf c d := by
  cases h with
  | last hdigit =>
      exact ⟨_, _, _, rfl, hdigit⟩
  | next hdigit _ =>
      exact ⟨_, _, _, rfl, hdigit⟩
  | separated hdigit _ =>
      exact ⟨_, _, _, rfl, hdigit⟩

theorem SpellsDigits.exists_getLast
    (h : SpellsDigits s ds) :
    ∃ (c : Char) (d : Nat), s.getLast? = some c ∧ IsDigitOf c d := by
  induction h with
  | last hdigit =>
      exact ⟨_, _, rfl, hdigit⟩
  | next _ hrest ih =>
      obtain ⟨c, d, hlast, hdigit⟩ := ih
      exact ⟨c, d, by simp [List.getLast?_cons, hlast], hdigit⟩
  | separated _ hrest ih =>
      obtain ⟨c, d, hlast, hdigit⟩ := ih
      exact ⟨c, d, by simp [List.getLast?_cons, hlast], hdigit⟩

theorem wellSeparated_digit
    {c : Char} {d : Nat}
    (h : IsDigitOf c d) (afterDigit : Bool) (s : List Char) :
    wellSeparated afterDigit (c :: s) = wellSeparated true s := by
  have hc : c ≠ '_' := by
    rintro rfl
    exact not_isDigitOf (by decide) d h
  rw [wellSeparated, if_neg hc]

theorem SpellsDigits.wellSeparated
    (h : SpellsDigits s ds) (afterDigit : Bool) :
    Text.wellSeparated afterDigit s = true := by
  induction h generalizing afterDigit with
  | last hdigit =>
      exact wellSeparated_digit hdigit afterDigit []
  | next hdigit _ ih =>
      rw [wellSeparated_digit hdigit]
      exact ih true
  | separated hdigit _ ih =>
      rw [wellSeparated_digit hdigit]
      exact ih false

theorem SpellsDigits.filterMap_eq
    (h : SpellsDigits s ds) :
    s.filterMap digitValue? = ds := by
  have hunderscore : digitValue? '_' = none := by
    decide
  induction h with
  | last hdigit =>
      rw [List.filterMap_cons_some (digitValue?_eq_some_iff.mpr hdigit)]
      rfl
  | next hdigit _ ih =>
      rw [List.filterMap_cons_some (digitValue?_eq_some_iff.mpr hdigit), ih]
  | separated hdigit _ ih =>
      rw [List.filterMap_cons_some (digitValue?_eq_some_iff.mpr hdigit),
        List.filterMap_cons_none hunderscore, ih]

theorem SpellsDigits.lt_of_mem
    (h : SpellsDigits s ds) :
    ∀ d ∈ ds, d < 10 := by
  induction h with
  | last hdigit =>
      simpa using hdigit.1
  | next hdigit _ ih =>
      simpa using ⟨hdigit.1, ih⟩
  | separated hdigit _ ih =>
      simpa using ⟨hdigit.1, ih⟩

theorem SpellsDigits.of_mem
    (h : SpellsDigits s ds) :
    ∀ c ∈ s, ((digitValue? c).isSome || decide (c = '_')) = true := by
  induction h with
  | last hdigit =>
      simp [digitValue?_eq_some_iff.mpr hdigit]
  | next hdigit _ ih =>
      simpa [digitValue?_eq_some_iff.mpr hdigit] using ih
  | separated hdigit _ ih =>
      simpa [digitValue?_eq_some_iff.mpr hdigit] using ih

/-- What is well separated spells digits; behind a digit it may also begin with an
underscore, or be nothing at all. -/
theorem spellsDigits_of_wellSeparated
    (h : ∀ c ∈ s, ((digitValue? c).isSome || decide (c = '_')) = true) :
    (wellSeparated false s = true → SpellsDigits s (s.filterMap digitValue?)) ∧
    (wellSeparated true s = true → ∀ (c : Char) (d : Nat), IsDigitOf c d →
      SpellsDigits (c :: s) (d :: s.filterMap digitValue?)) := by
  -- both at once: a digit leads to the second statement, an underscore back to the first
  induction s with
  | nil =>
      exact ⟨fun hfalse => absurd hfalse (by decide), fun _ c d hdigit => .last hdigit⟩
  | cons x s ih =>
      obtain ⟨ihstart, ihbehind⟩ := ih fun c hc => h c (List.mem_cons_of_mem x hc)
      cases hx : digitValue? x with
      | some e =>
          have hdigit := digitValue?_eq_some_iff.mp hx
          rw [wellSeparated_digit hdigit, wellSeparated_digit hdigit,
            List.filterMap_cons_some hx]
          exact ⟨fun hs => ihbehind hs x e hdigit,
            fun hs c d hc => .next hc (ihbehind hs x e hdigit)⟩
      | none =>
          obtain rfl : x = '_' := by
            simpa [hx] using h x List.mem_cons_self
          rw [List.filterMap_cons_none hx]
          exact ⟨fun hs => absurd hs (by simp [wellSeparated]),
            fun hs c d hc => .separated hc (ihstart hs)⟩

theorem spellsDigits_iff :
    SpellsDigits s ds ↔
      (∀ c ∈ s, ((digitValue? c).isSome || decide (c = '_')) = true) ∧
        wellSeparated false s = true ∧
        s.filterMap digitValue? = ds := by
  constructor
  · exact fun h => ⟨h.of_mem, h.wellSeparated false, h.filterMap_eq⟩
  · rintro ⟨hmem, hseparated, rfl⟩
    exact (spellsDigits_of_wellSeparated hmem).1 hseparated

/-- The number that digits denote in a base. -/
theorem ofDigits_eq
    (base : Nat) (ds : List Nat) :
    ofDigits base ds = Nat.ofDigits base ds.reverse := by
  induction ds using List.reverseRecOn with
  | nil =>
      rfl
  | append_singleton ds d ih =>
      rw [ofDigits, List.foldl_append, ← ofDigits, ih, List.reverse_append,
        List.reverse_singleton,
        List.singleton_append, Nat.ofDigits_cons, List.foldl_cons, List.foldl_nil,
        Nat.mul_comm, Nat.add_comm]

/-- The unsigned literals and their values. -/
theorem readMagnitude_eq_ok_iff
    {text : String} {n : Nat} :
    readMagnitude 10 text s = .ok n ↔
      ∃ ds : List Nat, SpellsDigits s ds ∧ ds.length ≤ 4300 ∧
        n = Nat.ofDigits 10 ds.reverse := by
  simp only [readMagnitude, digitOfBase?_ten]
  constructor
  · intro h
    split_ifs at h with hseparated hlong hrest
    have hrun : ∀ c ∈ s, ((digitValue? c).isSome || decide (c = '_')) = true := by
      rw [Bool.not_eq_true, Bool.not_eq_false', List.isEmpty_iff] at hrest
      exact List.dropWhile_eq_nil_iff.mp hrest
    rw [List.takeWhile_eq_self_iff.mpr hrun] at h hseparated hlong
    refine ⟨s.filterMap digitValue?,
      spellsDigits_iff.mpr ⟨hrun, by simpa using hseparated, rfl⟩, ?_, ?_⟩
    · simp only [decide_true, Bool.true_and, decide_eq_true_eq, not_lt] at hlong
      exact hlong
    · rw [← ofDigits_eq, Except.ok.inj h]
  · rintro ⟨ds, hdigits, hlength, rfl⟩
    have hlong : ¬ maxDigits < ds.length := Nat.not_lt.mpr hlength
    rw [List.takeWhile_eq_self_iff.mpr hdigits.of_mem,
      List.dropWhile_eq_nil_iff.mpr hdigits.of_mem,
      hdigits.wellSeparated, hdigits.filterMap_eq, ofDigits_eq]
    simp [hlong]

end Runs

section Literals

variable {text : String} {i : Int} {sign digits : List Char}
  {factor : Int} {ds : List Nat}

theorem takeSign_spelled
    (hsign : SpellsSign sign factor)
    (hdigits : SpellsDigits digits ds) :
    (takeSign (sign ++ digits)).2 = digits ∧
      ∀ n : Nat, (if (takeSign (sign ++ digits)).1 then -(n : Int) else n) =
        factor * n := by
  cases hsign with
  | plus =>
      exact ⟨rfl, fun n => (one_mul (n : Int)).symm⟩
  | minus =>
      exact ⟨rfl, fun n => (neg_one_mul (n : Int)).symm⟩
  | absent =>
      obtain ⟨c, d, r, rfl, hdigit⟩ := hdigits.exists_cons
      have hnone : takeSign (c :: r) = (false, c :: r) := by
        unfold takeSign
        split
        · rename_i hminus
          obtain rfl := (List.cons.inj hminus).1
          exact absurd hdigit (not_isDigitOf (by decide) d)
        · rename_i hplus
          obtain rfl := (List.cons.inj hplus).1
          exact absurd hdigit (not_isDigitOf (by decide) d)
        · rfl
      rw [List.nil_append, hnone]
      exact ⟨rfl, fun n => (one_mul (n : Int)).symm⟩

/-- A text begins with a sign, or with none. -/
theorem exists_sign
    (s : List Char) :
    ∃ (sign : List Char) (factor : Int),
      SpellsSign sign factor ∧ s = sign ++ (takeSign s).2 ∧
        ∀ n : Nat, (if (takeSign s).1 then -(n : Int) else n) = factor * n := by
  unfold takeSign
  split
  · exact ⟨['-'], -1, .minus, rfl, fun n => (neg_one_mul (n : Int)).symm⟩
  · exact ⟨['+'], 1, .plus, rfl, fun n => (one_mul (n : Int)).symm⟩
  · exact ⟨[], 1, .absent, rfl, fun n => (one_mul (n : Int)).symm⟩

/-- Only the blanks around a literal are stripped. -/
theorem stripWhile_literal
    {front back : List Char}
    (hblank : ∀ c ∈ front ++ back, isSpace c = true)
    (hsign : SpellsSign sign factor)
    (hdigits : SpellsDigits digits ds) :
    stripWhile isSpace (front ++ (sign ++ digits) ++ back) = sign ++ digits := by
  obtain ⟨c, d, r, hfirst, hdigit⟩ := hdigits.exists_cons
  obtain ⟨c', d', hlast, hdigit'⟩ := hdigits.exists_getLast
  refine stripWhile_between hblank (by simp [hfirst]) ?_ ?_
  · intro x hx
    cases hsign with
    | plus =>
        obtain rfl := Option.some.inj hx
        decide
    | minus =>
        obtain rfl := Option.some.inj hx
        decide
    | absent =>
        rw [List.nil_append, hfirst] at hx
        obtain rfl := Option.some.inj hx
        exact hdigit.not_isSpace
  · intro x hx
    rw [List.getLast?_append, hlast] at hx
    obtain rfl := Option.some.inj hx
    exact hdigit'.not_isSpace

/-- A text is read as a number exactly if it is a literal that spells this number. -/
theorem readInteger_eq_ok_iff :
    readInteger 10 text = .ok i ↔ SpellsInteger text i := by
  simp only [readInteger, dropBaseMark_ten]
  constructor
  · intro h
    obtain ⟨front, back, htext, hblank⟩ := exists_runs_around isSpace text.toList
    obtain ⟨sign, factor, hsign, hbody, hvalue⟩ :=
      exists_sign (stripWhile isSpace text.toList)
    cases hread : readMagnitude 10 text (takeSign (stripWhile isSpace text.toList)).2 with
    | error fault =>
        rw [hread] at h
        cases h
    | ok n =>
        obtain ⟨ds, hdigits, hlength, rfl⟩ := readMagnitude_eq_ok_iff.mp hread
        rw [hread] at h
        have hi := Except.ok.inj h
        dsimp only at hi
        rw [← hi, hvalue]
        refine .literal ?_ hblank hsign hdigits hlength
        rw [← hbody, ← htext]
  · rintro ⟨htext, hblank, hsign, hdigits, hlength⟩
    obtain ⟨hrest, hvalue⟩ := takeSign_spelled hsign hdigits
    rw [htext, stripWhile_literal hblank hsign hdigits, hrest,
      readMagnitude_eq_ok_iff.mpr ⟨_, hdigits, hlength, rfl⟩, ← hvalue]
    rfl

theorem integer?_eq_some_iff :
    integer? text = some i ↔ SpellsInteger text i := by
  rw [← readInteger_eq_ok_iff, integer?]
  cases readInteger 10 text with
  | ok j =>
      simp [Except.toOption]
  | error fault =>
      simp [Except.toOption]

/-- A text spells one number at most. -/
theorem SpellsInteger.unique
    {j : Int}
    (hi : SpellsInteger text i)
    (hj : SpellsInteger text j) :
    i = j :=
  Option.some.inj ((integer?_eq_some_iff.mpr hi).symm.trans (integer?_eq_some_iff.mpr hj))

/-- A text in which a fault is found spells no number. -/
theorem not_spellsInteger_of_error
    {fault : IntegerFault}
    (h : readInteger 10 text = .error fault) (i : Int) :
    ¬ SpellsInteger text i := by
  intro hi
  rw [readInteger_eq_ok_iff.mpr hi] at h
  cases h

end Literals

end Text
end HdlLint
