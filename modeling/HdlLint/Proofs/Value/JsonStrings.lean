import HdlLint.Value.Json
import Mathlib.Tactic

/-!
# JSON strings are read back

A character stands in a JSON string for itself, as a letter behind a backslash, or as one
or two UTF-16 units of four digits.  Each of these forms is read as the character, so a
string is read back whatever characters it holds.  What is written is printable ASCII, so
it holds no line end.

* `readString?_escapeChar`: the step, one character written and read.
* `readString?_escaped`: a string is read up to its closing quote.
* `isPrintableAscii_of_mem_quote`: the characters that are written.
-/

namespace HdlLint
namespace Value
namespace Json

section Units

theorem radixDigit?_hexDigit
    {d : Nat}
    (h : d < 16) :
    Text.radixDigit? (Text.hexDigit d) = some d := by
  interval_cases d <;> rfl

theorem hexDigits_four
    (n : Nat) :
    Text.hexDigits 4 n =
      [Text.hexDigit (n / 4096 % 16), Text.hexDigit (n / 256 % 16),
        Text.hexDigit (n / 16 % 16), Text.hexDigit (n % 16)] := by
  simp [Text.hexDigits, List.range_succ]

/-- Four digits are read as the unit they were made of. -/
theorem unit?_hexDigits
    {n : Nat}
    (h : n < 0x10000) (rest : List Char) :
    unit? (Text.hexDigits 4 n ++ rest) = some (n, rest) := by
  have hdigit : ∀ m : Nat, (Text.radixDigit? (Text.hexDigit (m % 16))).filter (· < 16) =
      some (m % 16) := by
    intro m
    have hlt : m % 16 < 16 := Nat.mod_lt m (by decide)
    simp [radixDigit?_hexDigit hlt, Option.filter, hlt]
  have hvalue : Text.ofDigits 16 [n / 4096 % 16, n / 256 % 16, n / 16 % 16, n % 16] =
      n := by
    simp only [Text.ofDigits, List.foldl_cons, List.foldl_nil]
    omega
  simp [unit?, hexDigits_four, hdigit, hvalue]

end Units

section Escapes

/-- A unit that is no half of a pair is read as its character. -/
theorem readEscape?_unit
    {c : Char}
    (h : c.toNat < 0x10000) (rest : List Char) :
    readEscape? ('u' :: Text.hexDigits 4 c.toNat ++ rest) = some (c, rest) := by
  have hvalid : c.toNat < 0xD800 ∨ 0xDFFF < c.toNat := by
    have := c.valid
    simp only [UInt32.isValidChar, Nat.isValidChar] at this
    simp only [Char.toNat]
    omega
  have hhigh : ¬ (0xD800 ≤ c.toNat ∧ c.toNat ≤ 0xDBFF) := by omega
  have hlow : ¬ (0xDC00 ≤ c.toNat ∧ c.toNat ≤ 0xDFFF) := by omega
  simp [readEscape?, unit?_hexDigits h, hhigh, hlow, Char.ofNat_toNat]

/-- The two halves of a pair are read as the character they were made of. -/
theorem readEscape?_pair
    {c : Char}
    (h : 0x10000 ≤ c.toNat) (rest : List Char) :
    readEscape? ('u' :: Text.hexDigits 4 (0xD800 + (c.toNat - 0x10000) / 0x400) ++
      escapeUnit (0xDC00 + (c.toNat - 0x10000) % 0x400) ++ rest) = some (c, rest) := by
  have hmost : c.toNat < 0x110000 := by
    have := c.valid
    simp only [UInt32.isValidChar, Nat.isValidChar] at this
    simp only [Char.toNat]
    omega
  obtain ⟨n, hn⟩ : ∃ n, n = c.toNat - 0x10000 := ⟨_, rfl⟩
  rw [← hn]
  have hhigh : 0xD800 + n / 0x400 < 0x10000 := by omega
  have hlow : 0xDC00 + n % 0x400 < 0x10000 := by omega
  have hfirst : 0xD800 ≤ 0xD800 + n / 0x400 ∧ 0xD800 + n / 0x400 ≤ 0xDBFF := by omega
  have hsecond : 0xDC00 ≤ 0xDC00 + n % 0x400 ∧ 0xDC00 + n % 0x400 ≤ 0xDFFF := by omega
  have hunit : lowUnit? (escapeUnit (0xDC00 + n % 0x400) ++ rest) =
      some (0xDC00 + n % 0x400, rest) := by
    simp [lowUnit?, escapeUnit, unit?_hexDigits hlow, Option.filter, hsecond]
  have hchar : 0x10000 + (0xD800 + n / 0x400 - 0xD800) * 0x400 +
      (0xDC00 + n % 0x400 - 0xDC00) = c.toNat := by omega
  simp only [readEscape?, List.cons_append, List.append_assoc, unit?_hexDigits hhigh,
    Option.bind_eq_bind, Option.bind_some,
    hunit, hchar, Char.ofNat_toNat]
  simp [hfirst]

/-- One character is read from what was written for it. -/
theorem readString?_escapeChar
    (c : Char) (fuel : Nat) (read rest : List Char) :
    readString? (fuel + 1) read (escapeChar c ++ rest) =
      readString? fuel (c :: read) rest := by
  by_cases hquote : c = '\x22'
  · subst hquote; rfl
  by_cases hbackslash : c = '\\'
  · subst hbackslash; rfl
  by_cases hn : c = '\n'
  · subst hn; rfl
  by_cases hr : c = '\r'
  · subst hr; rfl
  by_cases ht : c = '\t'
  · subst ht; rfl
  by_cases hb : c = '\x08'
  · subst hb; rfl
  by_cases hf : c = '\x0C'
  · subst hf; rfl
  rw [escapeChar, if_neg hquote, if_neg hbackslash, if_neg hn, if_neg hr,
    if_neg ht, if_neg hb, if_neg hf]
  by_cases hplain : 0x20 ≤ c.toNat ∧ c.toNat ≤ 0x7E
  · have hgap : ¬ c.toNat < 0x20 := by omega
    simp [hplain, readString?, hgap]
  · rw [if_neg (by simpa using hplain)]
    by_cases hunit : c.toNat < 0x10000
    · rw [if_pos hunit]
      have hread := readEscape?_unit hunit rest
      simp only [List.cons_append] at hread
      simp [readString?, escapeUnit, hread]
    · rw [if_neg hunit]
      have hread := readEscape?_pair (Nat.le_of_not_lt hunit) rest
      simp only [List.cons_append, List.append_assoc] at hread
      simp [readString?, escapeUnit] at hread ⊢
      simp [hread]

theorem escapeChar_ne_nil
    (c : Char) :
    escapeChar c ≠ [] := by
  unfold escapeChar
  split_ifs <;> simp [escapeUnit]

/-- The characters of a string are read up to its closing quote. -/
theorem readString?_escaped
    {cs : List Char} {fuel : Nat}
    (h : cs.length < fuel) (read rest : List Char) :
    readString? fuel read (cs.flatMap escapeChar ++ '\x22' :: rest) =
      some (String.ofList (read.reverse ++ cs), rest) := by
  induction cs generalizing fuel read with
  | nil =>
      obtain ⟨fuel, rfl⟩ := Nat.exists_eq_succ_of_ne_zero (Nat.ne_of_gt h)
      simp [readString?]
  | cons c cs ih =>
      obtain ⟨fuel, rfl⟩ :=
        Nat.exists_eq_succ_of_ne_zero (Nat.ne_of_gt (Nat.zero_lt_of_lt h))
      rw [List.flatMap_cons, List.append_assoc, readString?_escapeChar,
        ih (Nat.lt_of_succ_lt_succ h)]
      simp

end Escapes

section Characters

/-- The characters from a blank up to a tilde. -/
def isPrintableAscii (c : Char) : Bool :=
  0x20 ≤ c.toNat && c.toNat ≤ 0x7E

theorem isPrintableAscii_hexDigit
    {d : Nat}
    (h : d < 16) :
    isPrintableAscii (Text.hexDigit d) = true := by
  interval_cases d <;> rfl

theorem isPrintableAscii_of_mem_escapeUnit
    {c : Char} {n : Nat}
    (h : c ∈ escapeUnit n) :
    isPrintableAscii c = true := by
  rw [escapeUnit, hexDigits_four] at h
  simp only [List.mem_cons, List.not_mem_nil, or_false] at h
  rcases h with rfl | rfl | rfl | rfl | rfl | rfl
  · decide
  · decide
  all_goals exact isPrintableAscii_hexDigit (Nat.mod_lt _ (by decide))

theorem isPrintableAscii_of_mem_escapeChar
    {c d : Char}
    (h : d ∈ escapeChar c) :
    isPrintableAscii d = true := by
  have hletter : ∀ e : Char, isPrintableAscii e = true → d ∈ ['\\', e] →
      isPrintableAscii d = true := by
    intro e he hd
    rcases List.mem_pair.mp hd with rfl | rfl
    · decide
    · exact he
  unfold escapeChar at h
  split_ifs at h with _ _ _ _ _ _ _ hplain
  iterate 7 exact hletter _ (by decide) h
  · obtain rfl := List.mem_singleton.mp h
    exact hplain
  · exact isPrintableAscii_of_mem_escapeUnit h
  · rcases List.mem_append.mp h with hhigh | hlow
    · exact isPrintableAscii_of_mem_escapeUnit hhigh
    · exact isPrintableAscii_of_mem_escapeUnit hlow

theorem isPrintableAscii_of_mem_quote
    {s : String} {c : Char}
    (h : c ∈ (quote s).toList) :
    isPrintableAscii c = true := by
  rw [quote, String.toList_ofList, List.cons_append, List.mem_cons,
    List.mem_append, List.mem_flatMap,
    List.mem_singleton] at h
  rcases h with rfl | ⟨d, -, hd⟩ | rfl
  · decide
  · exact isPrintableAscii_of_mem_escapeChar hd
  · decide

end Characters

end Json
end Value
end HdlLint
