import HdlLint.Text.Utf8
import Mathlib.Tactic

/-!
# Decoding characters and line feeds

The machine that decodes bytes reads every character back that was encoded, and a byte of
a control character is one wherever it stands: it continues no character, so what is
unfinished before it ends there, and no other bytes give that character.

* `run_encoded`: an encoded character is read back.
* `toList_toUTF8`, `decodeLossy_toUTF8`: the bytes of a text, which is read back from
  them.
* `SoundState.step`: a byte leaves a sound state behind.
* `run_append_ascii`: what stands before a byte below 0x80 and what stands behind it are
  decoded on their own.
* `count_newline_run`: there are as many line feeds as bytes that are one.
* `getLast?_of_run`: a carriage return at the end comes from a byte at the end.
-/

namespace HdlLint
namespace Text
namespace Utf8

/-- What is true of an unfinished character: its next byte is a continuation byte, and two
bytes at least are missing as long as only zeros have been read, the next of them not
among the least. -/
structure Pending.Sound (p : Pending) : Prop where
  low_le : 0x80 ≤ p.low
  le_high : p.high ≤ 0xBF
  begun : p.bits = 0 → 2 ≤ p.missing ∧ 0x90 ≤ p.low

section Bytes

variable {p : Pending} {b : UInt8} {r : List UInt8}

/-- A lead byte of two bytes, and the bounds that it sets. -/
theorem lead?_two
    {n : Nat}
    (hlow : 0xC2 ≤ n)
    (hhigh : n < 0xE0) :
    lead? n = some ⟨1, 0x80, 0xBF, n - 0xC0⟩ := by
  unfold lead?
  rw [if_neg (by omega), if_pos hhigh]

/-- A lead byte of three bytes, and the bounds that it sets. -/
theorem lead?_three
    {n : Nat}
    (hlow : 0xE0 ≤ n)
    (hhigh : n < 0xF0) :
    lead? n = some
      ⟨2, if n = 0xE0 then 0xA0 else 0x80, if n = 0xED then 0x9F
        else 0xBF, n - 0xE0⟩ := by
  unfold lead?
  rw [if_neg (by omega), if_neg (by omega)]
  by_cases h0 : n = 0xE0
  · simp [h0]
  · by_cases hd : n = 0xED
    · simp [hd]
    · simp [h0, hd, hhigh]

/-- A lead byte of four bytes, and the bounds that it sets. -/
theorem lead?_four
    {n : Nat}
    (hlow : 0xF0 ≤ n)
    (hhigh : n ≤ 0xF4) :
    lead? n = some
      ⟨3, if n = 0xF0 then 0x90 else 0x80, if n = 0xF4 then 0x8F
        else 0xBF, n - 0xF0⟩ := by
  unfold lead?
  rw [if_neg (by omega), if_neg (by omega), if_neg (by omega),
    if_neg (by omega), if_neg (by omega)]
  by_cases h0 : n = 0xF0
  · simp [h0]
  · by_cases h4 : n = 0xF4
    · simp [h4]
    · have hlt : n < 0xF4 := by
        omega
      simp [h0, h4, hlt]

/-- A lead byte begins a sound unfinished character. -/
theorem sound_of_lead?
    {n : Nat}
    (h : lead? n = some p) :
    0x80 ≤ n ∧ p.Sound := by
  by_cases hnone : n < 0xC2
  · rw [lead?, if_pos hnone] at h
    cases h
  refine ⟨by omega, ?_⟩
  by_cases h2 : n < 0xE0
  · rw [lead?_two (by omega) h2] at h
    cases h
    exact ⟨by simp, by simp, by simp; omega⟩
  by_cases h3 : n < 0xF0
  · rw [lead?_three (by omega) h3] at h
    cases h
    refine ⟨?_, ?_, ?_⟩
    · simp only; split <;> omega
    · simp only; split <;> omega
    · simp only
      intro hzero
      rw [if_pos (by omega)]
      omega
  by_cases h4 : n ≤ 0xF4
  · rw [lead?_four (by omega) h4] at h
    cases h
    refine ⟨?_, ?_, ?_⟩
    · simp only; split <;> omega
    · simp only; split <;> omega
    · simp only
      intro hzero
      rw [if_pos (by omega)]
      omega
  · unfold lead? at h
    rw [if_neg (by omega), if_neg (by omega), if_neg (by omega),
      if_neg (by omega), if_neg (by omega),
      if_neg (by omega), if_neg (by omega), if_neg (by omega)] at h
    cases h

theorem Pending.accepts_iff
    {n : Nat} :
    p.accepts n = true ↔ p.low ≤ n ∧ n ≤ p.high := by
  simp [Pending.accepts]

theorem Pending.Sound.next
    (h : p.Sound) {n : Nat}
    (hn : p.accepts n = true) :
    (p.next n).Sound := by
  obtain ⟨hlow, hhigh⟩ := Pending.accepts_iff.mp hn
  refine ⟨by simp [Pending.next], by simp [Pending.next], ?_⟩
  intro hzero
  have hle := h.le_high
  have hbits : p.bits * 64 + n % 64 = 0 := hzero
  have hbegun := h.begun (by omega)
  omega

theorem run_ascii
    (h : b.toNat < 0x80) :
    run none (b :: r) = Char.ofNat b.toNat :: run none r := by
  simp [run, step, begin, h]

theorem run_lead
    (h : lead? b.toNat = some p) :
    run none (b :: r) = run (some p) r := by
  have hge := (sound_of_lead? h).1
  simp [run, step, begin, h, Nat.not_lt.mpr hge]

theorem run_continuation
    (h : p.accepts b.toNat = true)
    (hmissing : 2 ≤ p.missing) :
    run (some p) (b :: r) = run (some (p.next b.toNat)) r := by
  have hmore : ¬ p.missing ≤ 1 := by
    omega
  simp [run, step, h, hmore]

theorem run_completion
    (h : p.accepts b.toNat = true)
    (hmissing : p.missing ≤ 1) :
    run (some p) (b :: r) = Char.ofNat (p.extend b.toNat) :: run none r := by
  simp [run, step, h, hmissing]

end Bytes

section Encoded

variable {n : Nat}

theorem toNat_ofNat_byte
    (h : n < 256) :
    (UInt8.ofNat n).toNat = n :=
  UInt8.toNat_ofNat_of_lt' h

/-- The bytes of a character of two bytes. -/
theorem run_two
    (hlow : 0x80 ≤ n)
    (hhigh : n < 0x800) (r : List UInt8) :
    run none (UInt8.ofNat (n / 64 % 32 + 192) :: UInt8.ofNat (n % 64 + 128) :: r) =
      Char.ofNat n :: run none r := by
  have hfirst := toNat_ofNat_byte (n := n / 64 % 32 + 192) (by omega)
  have hsecond := toNat_ofNat_byte (n := n % 64 + 128) (by omega)
  have hlead := lead?_two (n := (UInt8.ofNat (n / 64 % 32 + 192)).toNat)
      (by omega) (by omega)
  have hbits : (n / 64 % 32 + 192 - 0xC0) * 64 + (n % 64 + 128) % 64 = n := by
    omega
  rw [run_lead hlead, run_completion ?second (le_refl 1)]
  · simp only [Pending.extend, hfirst, hsecond, hbits]
  case second =>
    rw [hsecond, Pending.accepts_iff]
    simp only
    omega

/-- The bytes of a character of three bytes. -/
theorem run_three
    (hlow : 0x800 ≤ n)
    (hhigh : n < 0x10000)
    (hscalar : n < 0xD800 ∨ 0xDFFF < n) (r : List UInt8) :
    run none (UInt8.ofNat (n / 4096 % 16 + 224) :: UInt8.ofNat (n / 64 % 64 + 128) ::
      UInt8.ofNat (n % 64 + 128) :: r) =
      Char.ofNat n :: run none r := by
  have hfirst := toNat_ofNat_byte (n := n / 4096 % 16 + 224) (by omega)
  have hsecond := toNat_ofNat_byte (n := n / 64 % 64 + 128) (by omega)
  have hthird := toNat_ofNat_byte (n := n % 64 + 128) (by omega)
  have hlead := lead?_three (n := (UInt8.ofNat (n / 4096 % 16 + 224)).toNat)
      (by omega) (by omega)
  have hbits :
      ((n / 4096 % 16 + 224 - 0xE0) * 64 + (n / 64 % 64 + 128) % 64) * 64 +
        (n % 64 + 128) % 64 = n := by
    omega
  rw [run_lead hlead, run_continuation ?second (le_refl 2),
    run_completion ?third (le_refl 1)]
  · simp only [Pending.extend, Pending.next, hfirst, hsecond, hthird, hbits]
  case third =>
    rw [hthird, Pending.accepts_iff]
    simp only [Pending.next]
    omega
  case second =>
    -- the bounds after the lead byte leave out overlong forms and surrogates
    rw [hsecond, Pending.accepts_iff]
    simp only [hfirst]
    constructor <;> split <;> omega

/-- The bytes of a character of four bytes. -/
theorem run_four
    (hlow : 0x10000 ≤ n)
    (hhigh : n < 0x110000) (r : List UInt8) :
    run none (UInt8.ofNat (n / 262144 % 8 + 240) :: UInt8.ofNat (n / 4096 % 64 + 128) ::
        UInt8.ofNat (n / 64 % 64 + 128) :: UInt8.ofNat (n % 64 + 128) :: r) =
      Char.ofNat n :: run none r := by
  have hfirst := toNat_ofNat_byte (n := n / 262144 % 8 + 240) (by omega)
  have hsecond := toNat_ofNat_byte (n := n / 4096 % 64 + 128) (by omega)
  have hthird := toNat_ofNat_byte (n := n / 64 % 64 + 128) (by omega)
  have hfourth := toNat_ofNat_byte (n := n % 64 + 128) (by omega)
  have hlead := lead?_four (n := (UInt8.ofNat (n / 262144 % 8 + 240)).toNat)
      (by omega) (by omega)
  have hbits :
      (((n / 262144 % 8 + 240 - 0xF0) * 64 + (n / 4096 % 64 + 128) % 64) * 64 +
        (n / 64 % 64 + 128) % 64) * 64 +
        (n % 64 + 128) % 64 = n := by
    omega
  rw [run_lead hlead, run_continuation ?second (Nat.le_succ 2),
    run_continuation ?third (le_refl 2),
    run_completion ?fourth (le_refl 1)]
  · simp only [Pending.extend, Pending.next, hfirst, hsecond, hthird, hfourth, hbits]
  case fourth =>
    rw [hfourth, Pending.accepts_iff]
    simp only [Pending.next]
    omega
  case third =>
    rw [hthird, Pending.accepts_iff]
    simp only [Pending.next]
    omega
  case second =>
    -- the bounds after the lead byte leave out overlong forms and what is too great
    rw [hsecond, Pending.accepts_iff]
    simp only [hfirst]
    constructor <;> split <;> omega

/-- The code points of characters: none of a surrogate, and none too great. -/
theorem toNat_isScalar
    (c : Char) :
    c.toNat < 0xD800 ∨ 0xDFFF < c.toNat ∧ c.toNat < 0x110000 :=
  c.valid

/-- An encoded character is read back. -/
theorem run_encoded
    (c : Char) (r : List UInt8) :
    run none (String.utf8EncodeChar c ++ r) = c :: run none r := by
  have hscalar := toNat_isScalar c
  have hsame : ∀ rest : List Char, Char.ofNat c.toNat :: rest = c :: rest :=
    fun rest => by
    rw [Char.ofNat_toNat]
  unfold String.utf8EncodeChar
  rw [← hsame]
  simp only [show c.val.toNat = c.toNat from rfl]
  split
  · rw [List.singleton_append, run_ascii] <;> rw [toNat_ofNat_byte] <;> omega
  split
  · exact run_two (by omega) (by omega) r
  split
  · exact run_three (by omega) (by omega) (by omega) r
  · exact run_four (by omega) (by omega) r

/-- The bytes of a text are those of its characters. -/
theorem toList_data_toUTF8
    (text : String) :
    text.toUTF8.data.toList = text.toList.flatMap String.utf8EncodeChar := by
  rw [String.toUTF8_eq_toByteArray, ← String.ofList_toList (s := text),
    String.toByteArray_ofList, List.utf8Encode,
    List.toList_data_toByteArray, String.toList_ofList]

theorem toList_loop
    (bytes : ByteArray) (i : Nat) (r : List UInt8) :
    ByteArray.toList.loop bytes i r = r.reverse ++ bytes.data.toList.drop i := by
  fun_induction ByteArray.toList.loop bytes i r with
  | case1 i r h ih =>
      have hi : i < bytes.data.toList.length := by simpa using h
      rw [ih, List.drop_eq_getElem_cons hi]
      simp [ByteArray.get!, h]
  | case2 i r h =>
      have hi : bytes.data.toList.length ≤ i := by simpa using h
      simp [List.drop_eq_nil_of_le hi]

theorem toList_toUTF8
    (text : String) :
    text.toUTF8.toList = text.toList.flatMap String.utf8EncodeChar := by
  rw [ByteArray.toList, toList_loop, ← toList_data_toUTF8]
  rfl

/-- An encoded text is read back. -/
theorem decodeLossy_toUTF8
    (text : String) :
    decodeLossy text.toUTF8.data.toList = text := by
  have hrun : ∀ s : List Char, run none (s.flatMap String.utf8EncodeChar) = s := by
    intro s
    induction s with
    | nil =>
        rfl
    | cons c s ih =>
        rw [List.flatMap_cons, run_encoded, ih]
  rw [decodeLossy, toList_data_toUTF8, hrun, String.ofList_toList]

end Encoded

section ControlCharacters

/-- A state of the machine in which an unfinished character is a sound one. -/
def SoundState (state : Option Pending) : Prop :=
  ∀ p ∈ state, p.Sound

theorem soundState_none :
    SoundState none :=
  fun _ hp => nomatch hp

theorem soundState_begin
    (n : Nat) :
    SoundState (begin n).2 := by
  unfold begin
  split
  · exact soundState_none
  cases hlead : lead? n with
  | none =>
      exact soundState_none
  | some p =>
      rintro q ⟨⟩
      exact (sound_of_lead? hlead).2

/-- A byte leaves a sound state behind. -/
theorem SoundState.step
    {state : Option Pending}
    (h : SoundState state) (n : Nat) :
    SoundState (step state n).2 := by
  cases state with
  | none =>
      exact soundState_begin n
  | some p =>
      have hp : p.Sound := h p rfl
      unfold Utf8.step
      simp only
      by_cases haccepts : p.accepts n = true
      · by_cases hmissing : p.missing ≤ 1
        · simp only [haccepts, hmissing, if_true]
          exact soundState_none
        · simp only [haccepts, hmissing, if_true, if_false]
          rintro q ⟨⟩
          exact hp.next haccepts
      · simp only [haccepts, Bool.false_eq_true, if_false]
        exact soundState_begin n

/-- A byte that stands for a character by itself continues none: it ends what is
unfinished as the end of the bytes does. -/
theorem step_ascii
    {state : Option Pending}
    (h : SoundState state) {n : Nat}
    (hn : n < 0x80) :
    step state n = (run state [] ++ [Char.ofNat n], none) := by
  cases state with
  | none =>
      simp [step, begin, run, hn]
  | some p =>
      have hlow := (h p rfl).low_le
      have hrefused : p.accepts n = false := by
        rw [Bool.eq_false_iff, Ne, Pending.accepts_iff]
        omega
      simp [step, hrefused, begin, run, hn]

theorem run_cons
    (state : Option Pending) (c : UInt8) (r : List UInt8) :
    run state (c :: r) = (step state c.toNat).1 ++ run (step state c.toNat).2 r := by
  cases state <;> rfl

/-- What stands before such a byte and what stands behind it are decoded on their own. -/
theorem run_append_ascii
    {state : Option Pending}
    (h : SoundState state) (a : List UInt8) {c : UInt8}
    (hc : c.toNat < 0x80) (b : List UInt8) :
    run state (a ++ c :: b) = run state a ++ Char.ofNat c.toNat :: run none b := by
  induction a generalizing state with
  | nil =>
      rw [List.nil_append, run_cons, step_ascii h hc, List.append_assoc]
      rfl
  | cons d a ih =>
      rw [List.cons_append, run_cons, run_cons, ih (h.step d.toNat), List.append_assoc]

theorem run_nil_subset
    (state : Option Pending) :
    run state [] ⊆ [replacement] := by
  cases state <;> simp [run]

theorem eq_toNat_of_ofNat_eq
    {c : Char}
    (hc : 0 < c.toNat) {n : Nat}
    (h : c = Char.ofNat n) :
    n = c.toNat := by
  subst h
  by_cases hvalid : n.isValidChar
  · have hchar : Char.ofNat n = Char.ofNatAux n hvalid := dif_pos hvalid
    rw [hchar]
    rfl
  · have hchar : Char.ofNat n = '\x00' := dif_neg hvalid
    rw [hchar] at hc
    exact absurd hc (by decide)

/-- A byte that begins a character settles no control character but itself. -/
theorem eq_toNat_of_mem_begin
    {c : Char}
    (hpos : 0 < c.toNat)
    (hlt : c.toNat < 0x20) {n : Nat}
    (h : c ∈ (begin n).1) :
    n = c.toNat := by
  unfold begin at h
  split at h
  · exact eq_toNat_of_ofNat_eq hpos (List.mem_singleton.mp h)
  split at h
  · cases h
  · rw [List.mem_singleton.mp h] at hlt
    exact absurd hlt (by decide)

/-- A byte settles no control character but itself. -/
theorem eq_toNat_of_mem_step
    {state : Option Pending}
    (hstate : SoundState state) {c : Char}
    (hpos : 0 < c.toNat)
    (hlt : c.toNat < 0x20) {n : Nat}
    (h : c ∈ (step state n).1) :
    n = c.toNat := by
  cases state with
  | none =>
      exact eq_toNat_of_mem_begin hpos hlt h
  | some p =>
      have hp : p.Sound := hstate p rfl
      unfold step at h
      simp only at h
      by_cases haccepts : p.accepts n = true
      · by_cases hmissing : p.missing ≤ 1
        · simp only [haccepts, hmissing, if_true, List.mem_singleton] at h
          have hextended : p.bits * 64 + n % 64 = c.toNat := eq_toNat_of_ofNat_eq hpos h
          -- a character that is complete with no bits before its last byte would have had
          -- more bytes missing
          have hbegun := hp.begun (by omega)
          omega
        · simp [haccepts, hmissing] at h
      · simp only [haccepts, Bool.false_eq_true, if_false, List.mem_cons] at h
        obtain rfl | hbegin := h
        · exact absurd hlt (by decide)
        · exact eq_toNat_of_mem_begin hpos hlt hbegin

/-- There are as many line feeds as bytes that are one. -/
theorem count_newline_run
    {state : Option Pending}
    (hstate : SoundState state) (bytes : List UInt8) :
    (run state bytes).count '\n' = bytes.count 0x0A := by
  induction bytes generalizing state with
  | nil =>
      have hnone : '\n' ∉ run state [] :=
        fun hmem => absurd (run_nil_subset state hmem) (by decide)
      rw [List.count_eq_zero_of_not_mem hnone, List.count_nil]
  | cons b r ih =>
      rw [run_cons, List.count_append, ih (hstate.step b.toNat),
        List.count_cons, Nat.add_comm]
      congr 1
      by_cases hb : b = 0x0A
      · rw [hb, show (0x0A : UInt8).toNat = 0x0A from rfl,
          step_ascii hstate (by decide), List.count_append]
        have hnone : '\n' ∉ run state [] :=
          fun hmem => absurd (run_nil_subset state hmem) (by decide)
        rw [List.count_eq_zero_of_not_mem hnone]
        rfl
      · have hnone : '\n' ∉ (step state b.toNat).1 := fun hmem =>
          hb (UInt8.toNat.inj (eq_toNat_of_mem_step hstate (by decide) (by decide) hmem))
        rw [List.count_eq_zero_of_not_mem hnone, if_neg (by simpa using hb)]

/-- A byte that settles nothing leaves a character unfinished. -/
theorem isSome_of_step_eq_nil
    {state : Option Pending} {n : Nat}
    (h : (step state n).1 = []) :
    (step state n).2.isSome := by
  have hbegin : (begin n).1 = [] → (begin n).2.isSome := by
    unfold begin
    split
    · simp
    · split <;> simp
  cases state with
  | none =>
      exact hbegin h
  | some p =>
      unfold step at h ⊢
      by_cases haccepts : p.accepts n = true
      · by_cases hmissing : p.missing ≤ 1
        · simp [haccepts, hmissing] at h
        · simp [haccepts, hmissing]
      · simp [haccepts] at h

/-- Bytes give at least one character. -/
theorem run_cons_ne_nil
    (state : Option Pending) (b : UInt8) (r : List UInt8) :
    run state (b :: r) ≠ [] := by
  rw [run_cons]
  induction r generalizing state b with
  | nil =>
      intro hnil
      obtain ⟨hsettled, hrest⟩ := List.append_eq_nil_iff.mp hnil
      obtain ⟨p, hp⟩ := Option.isSome_iff_exists.mp (isSome_of_step_eq_nil hsettled)
      rw [hp] at hrest
      cases hrest
  | cons d r ih =>
      rw [run_cons]
      exact List.append_ne_nil_of_right_ne_nil _ (ih _ d)

/-- A carriage return at the end comes from a byte at the end. -/
theorem getLast?_of_run
    {state : Option Pending}
    (hstate : SoundState state) {bytes : List UInt8}
    (h : (run state bytes).getLast? = some '\r') :
    bytes.getLast? = some 0x0D := by
  induction bytes generalizing state with
  | nil =>
      have hmem := run_nil_subset state (List.mem_of_getLast? h)
      exact absurd hmem (by decide)
  | cons b r ih =>
      rw [run_cons] at h
      cases r with
      | nil =>
          have hmem := List.mem_of_getLast? h
          obtain hsettled | hrest := List.mem_append.mp hmem
          · have hb := eq_toNat_of_mem_step hstate (by decide) (by decide) hsettled
            rw [List.getLast?_singleton, show b = 0x0D from UInt8.toNat.inj hb]
          · exact absurd (run_nil_subset _ hrest) (by decide)
      | cons d r =>
          obtain ⟨c, hc⟩ := Option.isSome_iff_exists.mp
            (List.getLast?_isSome.mpr (run_cons_ne_nil (step state b.toNat).2 d r))
          rw [List.getLast?_append, hc, Option.some_or, ← hc] at h
          rw [List.getLast?_cons_cons]
          exact ih (hstate.step b.toNat) h

end ControlCharacters

end Utf8
end Text
end HdlLint
