import HdlLint.Proofs.Report.EmojiTable
import HdlLint.Proofs.Report.Tags

/-!
# What is seen of a text

A text is seen with its tags gone, emoji in place of their names, brackets without the
backslashes before them, and without characters that are not shown.  Each of these changes
takes marks away and brings none, so by counting marks a text that is changed is told from
one that is seen as it is.

* `isSeenOf_replace` and `isSeenOf_shown`: what is seen of plain characters.
* `markCount_seenOf_parts`: a tag is never seen.
* `render_eq_iff`: the texts that are seen as they are.
-/

namespace HdlLint
namespace Report

/-- The characters to which a screen gives a meaning. -/
def marks : List Char := ['[', ']', '\\', ':', '\x07', '\x08', '\x0B', '\x0C', '\r']

/-- A class of characters to which no mark belongs. -/
theorem not_isMark_of_class
    {p : Char → Bool} {c : Char}
    (hp : marks.any p = false)
    (hc : p c = true) :
    isMark c = false := by
  have hne : ∀ m ∈ marks, c ≠ m := by
    rintro m hm rfl
    rw [List.any_eq_false] at hp
    exact hp c hm hc
  simp only [marks, List.forall_mem_cons] at hne
  simp [isMark, Markup.isHidden, hne]

/-- The marks in a text. -/
def markCount (s : List Char) : Nat :=
  s.countP isMark

/-- What is seen of a text is the text itself, or something with fewer marks. -/
def IsSeenOf (seen s : List Char) : Prop :=
  seen = s ∨ markCount seen < markCount s

theorem markCount_append
    (s t : List Char) :
    markCount (s ++ t) = markCount s + markCount t :=
  List.countP_append

namespace IsSeenOf

variable {r s t u : List Char}

theorem refl
    (s : List Char) :
    IsSeenOf s s :=
  Or.inl rfl

theorem le
    (h : IsSeenOf s t) :
    markCount s ≤ markCount t := by
  rcases h with rfl | h
  · exact Nat.le_refl _
  · exact h.le

theorem trans
    (hrs : IsSeenOf r s)
    (hst : IsSeenOf s t) :
    IsSeenOf r t := by
  rcases hrs with rfl | hrs
  · exact hst
  · exact Or.inr (hrs.trans_le hst.le)

theorem append
    (hrs : IsSeenOf r s)
    (htu : IsSeenOf t u) :
    IsSeenOf (r ++ t) (s ++ u) := by
  simp only [IsSeenOf, markCount_append] at *
  rcases hrs with rfl | hrs <;> rcases htu with rfl | htu
  · exact Or.inl rfl
  all_goals exact Or.inr (by omega)

theorem cons
    (h : IsSeenOf s t) (c : Char) :
    IsSeenOf (c :: s) (c :: t) :=
  (refl [c]).append h

/-- A text that is seen as it is after two changes is left as it is by the first one. -/
theorem eq_of_trans
    (hrs : IsSeenOf r s)
    (hst : IsSeenOf s t)
    (h : r = t) :
    s = t := by
  subst h
  rcases hst with rfl | hst
  · rfl
  · exact absurd hrs.le (Nat.not_le.mpr hst)

end IsSeenOf

namespace Emoji

section Replacing

variable {s : List Char}

theorem isSeenOf_written
    (code : List Char) :
    IsSeenOf (written code) (':' :: (code ++ [':'])) := by
  unfold written
  cases hdecode : decode? code with
  | none => exact IsSeenOf.refl _
  | some emoji =>
      right
      have hnone : markCount emoji = 0 := by
        rw [markCount, List.countP_eq_zero]
        simpa using not_isMark_of_decode? hdecode
      have hcolon : 0 < markCount (':' :: (code ++ [':'])) :=
        List.countP_pos_iff.mpr ⟨':', List.mem_cons_self, rfl⟩
      rwa [Option.getD_some, hnone]

/-- Emoji in place of their names. -/
theorem isSeenOf_replace
    (s : List Char) :
    IsSeenOf (replace s none) s ∧
    ∀ code : List Char,
      IsSeenOf (replace s (some code)) (':' :: (code.reverse ++ s)) := by
  induction s with
  | nil =>
      exact ⟨IsSeenOf.refl [], fun code => by simpa [replace] using IsSeenOf.refl _⟩
  | cons c r ih =>
      obtain ⟨ihnone, ihsome⟩ := ih
      refine ⟨?_, fun code => ?_⟩
      · rw [replace]
        split
        · rename_i hcolon
          subst hcolon
          exact ihsome []
        · exact ihnone.cons c
      · rw [replace]
        split
        · rename_i hcolon
          subst hcolon
          simpa using (isSeenOf_written code.reverse).append ihnone
        · split
          · simpa using ihsome (c :: code)
          · exact (IsSeenOf.refl (':' :: code.reverse)).append (ihnone.cons c)

/-- A text without colons holds no names, and none begins in it. -/
theorem replace_append_of_no_colon
    (h : ':' ∉ s) (t : List Char) :
    replace (s ++ t) none = s ++ replace t none := by
  induction s with
  | nil => rfl
  | cons c s ih =>
      rw [List.mem_cons, not_or] at h
      rw [List.cons_append, replace, if_neg (Ne.symm h.1), ih h.2, List.cons_append]

theorem replace_of_no_colon
    (h : ':' ∉ s) :
    replace s none = s := by
  have hreplace := replace_append_of_no_colon h []
  rwa [replace, List.append_nil] at hreplace

/-- What is written for a code that is read to its end. -/
theorem replace_code
    {code : List Char}
    (h : ∀ c ∈ code, isCodeChar c = true) (begun t : List Char) :
    replace (code ++ ':' :: t) (some begun) =
      written (begun.reverse ++ code) ++ replace t none := by
  induction code generalizing begun with
  | nil => simp [replace]
  | cons c code ih =>
      rw [List.forall_mem_cons] at h
      have hcolon : c ≠ ':' := by
        rintro rfl
        exact absurd h.1 (by decide)
      rw [List.cons_append, replace, if_neg hcolon, if_pos h.1, ih h.2]
      simp

end Replacing

end Emoji

namespace Markup

section Plain

variable {s : List Char}

theorem isSeenOf_unescape
    (s : List Char) :
    IsSeenOf (unescape s) s := by
  induction s using unescape.induct with
  | case1 r ih =>
      rw [unescape]
      exact Or.inr (Nat.lt_of_le_of_lt (ih.cons '[').le (by simp [markCount, isMark]))
  | case2 c r hne ih =>
      rw [unescape]
      · exact ih.cons c
      · exact hne
  | case3 => exact IsSeenOf.refl []

/-- Brackets behind backslashes are the only characters that are put in place of
others. -/
theorem unescape_eq_self_iff :
    unescape s = s ↔ ¬ ['\\', '['] <:+: s := by
  induction s using unescape.induct with
  | case1 r ih =>
      have hlost : unescape ('\\' :: '[' :: r) ≠ '\\' :: '[' :: r := by
        rw [unescape]
        simp
      exact iff_of_false hlost (not_not.mpr ⟨[], r, rfl⟩)
  | case2 c r hne ih =>
      rw [unescape, List.cons_inj_right, ih, List.infix_cons_iff, not_or]
      · refine ⟨fun h => ⟨?_, h⟩, And.right⟩
        rintro ⟨t, ht⟩
        obtain ⟨rfl, rfl⟩ := List.cons.inj ht
        exact hne t rfl rfl
      · exact hne
  | case3 => simp [unescape]

theorem isMark_of_isHidden
    {c : Char}
    (h : isHidden c = true) :
    isMark c = true := by
  simp [isMark, h]

theorem isSeenOf_visible
    (s : List Char) :
    IsSeenOf (s.filter fun c => !isHidden c) s := by
  induction s with
  | nil => exact IsSeenOf.refl []
  | cons c s ih =>
      cases hc : isHidden c with
      | false => simpa [hc] using ih.cons c
      | true =>
          have hlost : markCount s < markCount (c :: s) := by
            simp [markCount, isMark_of_isHidden hc]
          rw [List.filter_cons_of_neg (by simp [hc])]
          exact Or.inr (Nat.lt_of_le_of_lt ih.le hlost)

theorem isSeenOf_shown
    (s : List Char) :
    IsSeenOf (shown s) s :=
  (isSeenOf_visible _).trans ((Emoji.isSeenOf_replace _).1.trans (isSeenOf_unescape s))

/-- Plain characters that are seen as they are: no bracket stands behind a backslash, no
name of an emoji between colons, and no character is hidden. -/
structure IsPlainlySeen (s : List Char) : Prop where
  no_escape : ¬ ['\\', '['] <:+: s
  no_emoji : Emoji.replace s none = s
  no_hidden : ∀ c ∈ s, isHidden c = false

theorem shown_eq_self_iff :
    shown s = s ↔ IsPlainlySeen s := by
  constructor
  · intro h
    have hemoji := (Emoji.isSeenOf_replace (unescape s)).1
    have hunescape : unescape s = s :=
      IsSeenOf.eq_of_trans ((isSeenOf_visible _).trans hemoji) (isSeenOf_unescape s) h
    rw [shown, hunescape] at h
    rw [hunescape] at hemoji
    have hreplace : Emoji.replace s none = s :=
      IsSeenOf.eq_of_trans (isSeenOf_visible _) hemoji h
    rw [hreplace, List.filter_eq_self] at h
    exact ⟨unescape_eq_self_iff.mp hunescape, hreplace, fun c hc => by simpa using h c hc⟩
  · rintro ⟨hescape, hemoji, hhidden⟩
    rw [shown, unescape_eq_self_iff.mpr hescape, hemoji, List.filter_eq_self]
    exact fun c hc => by simp [hhidden c hc]

end Plain

section Parts

variable {s : List Char}

theorem HoldsNoTag.of_append
    {t : List Char}
    (h : HoldsNoTag (s ++ t)) :
    HoldsNoTag s := by
  rintro before body after hbody rfl
  exact h before body (after ++ t) hbody (by simp)

/-- What is seen of parts: nothing of a tag. -/
def seenOf (ps : List Part) : List Char :=
  ps.flatMap fun
    | .plain s => shown s
    | .tag _ => []

theorem renderParts_chars
    {ps : List Part} {position : Nat} {opened : List OpenTag} {t : StyledText}
    (h : renderParts position opened ps = .ok t) :
    t.chars = seenOf ps := by
  induction ps generalizing position opened t with
  | nil =>
      obtain rfl := Except.ok.inj h
      rfl
  | cons p ps ih =>
      cases p with
      | plain s =>
          rw [renderParts] at h
          cases hrest : renderParts (position + (shown s).length) opened ps with
          | error c =>
              rw [hrest] at h
              cases h
          | ok rest =>
              rw [hrest] at h
              obtain rfl := Except.ok.inj h
              simp [seenOf, ih hrest]
      | tag body =>
          rw [renderParts] at h
          cases htag : applyTag position opened body with
          | error c =>
              rw [htag] at h
              cases h
          | ok result =>
              obtain ⟨opened', span⟩ := result
              rw [htag] at h
              cases hrest : renderParts position opened' ps with
              | error c =>
                  simp only [bind, Except.bind, hrest] at h
                  cases h
              | ok rest =>
                  simp only [bind, Except.bind, hrest] at h
                  obtain rfl := Except.ok.inj h
                  simp [seenOf, ih hrest]

theorem seenOf_append
    (ps qs : List Part) :
    seenOf (ps ++ qs) = seenOf ps ++ seenOf qs :=
  List.flatMap_append

theorem seenOf_plainPart
    (read : List Char) :
    seenOf (plainPart read) = shown read.reverse := by
  cases read with
  | nil => rfl
  | cons c read => simp [plainPart, seenOf]

/-- A tag behind backslashes is seen without the backslash that is left over, or not at
all. -/
theorem markCount_escapedTag
    (n : Nat) (body : List Char) :
    markCount (seenOf (escapedTag n body)) <
      markCount (List.replicate n '\\' ++ '[' :: (body ++ [']'])) := by
  have hslash : ∀ k : Nat, markCount (List.replicate k '\\') = k := by
    intro k
    simp [markCount, List.countP_replicate, isMark]
  have hslashes := (isSeenOf_shown (List.replicate (n / 2) '\\')).le
  have hbody := (isSeenOf_shown ('[' :: (body ++ [']']))).le
  have hpositive : 0 < markCount ('[' :: (body ++ [']'])) :=
    List.countP_pos_iff.mpr ⟨'[', List.mem_cons_self, rfl⟩
  rw [escapedTag, seenOf_append, seenOf_plainPart, List.reverse_replicate,
    markCount_append, markCount_append, hslash]
  rw [hslash] at hslashes
  split
  · rename_i hodd
    simp only [seenOf, List.flatMap_cons, List.flatMap_nil, List.append_nil,
      List.cons_append] at hbody ⊢
    omega
  · simp only [seenOf, List.flatMap_cons, List.flatMap_nil, List.append_nil]
    rw [show markCount [] = 0 from rfl]
    omega

/-- Marks are lost wherever there is a tag. -/
theorem markCount_seenOf_parts
    (read s : List Char) :
    markCount (seenOf (parts read s)) ≤ markCount (read.reverse ++ s) ∧
    (¬ HoldsNoTag s →
      markCount (seenOf (parts read s)) < markCount (read.reverse ++ s)) := by
  induction read, s using parts.induct with
  | case1 read =>
      rw [parts_nil, seenOf_plainPart, List.append_nil]
      exact ⟨(isSeenOf_shown _).le, fun h => absurd holdsNoTag_nil h⟩
  | case2 read c r n body rest htag ih =>
      obtain ⟨hbody, hs⟩ := tagAt?_eq_some htag
      have hread := (isSeenOf_shown read.reverse).le
      have hescaped := markCount_escapedTag n body
      have hrest := ih.1
      have hparts : parts read (c :: r) =
          plainPart read ++ escapedTag n body ++ parts [] rest := by
        rw [parts]
        split
        · rename_i n' body' rest' htag'
          rw [htag] at htag'
          cases htag'
          rfl
        · rename_i htag'
          rw [htag] at htag'
          cases htag'
      have hsplit : read.reverse ++ c :: r =
          read.reverse ++
            ((List.replicate n '\\' ++ '[' :: (body ++ [']'])) ++ rest) := by
        rw [hs]
        simp
      have hlost : markCount (seenOf (parts read (c :: r))) <
          markCount (read.reverse ++ c :: r) := by
        rw [hparts, hsplit, seenOf_append, seenOf_append, seenOf_plainPart]
        simp only [markCount_append, List.reverse_nil, List.nil_append] at *
        omega
      exact ⟨hlost.le, fun _ => hlost⟩
  | case3 read c r htag ih =>
      rw [List.reverse_cons, List.append_assoc, List.singleton_append] at ih
      rw [parts_cons_of_none htag]
      refine ⟨ih.1, fun h => ih.2 fun hr => h (holdsNoTag_cons_iff.mpr ⟨?_, hr⟩)⟩
      rintro rfl
      simpa [tagAt?] using htag

/-- A text that is seen as it is. -/
structure IsVerbatim (s : List Char) : Prop extends IsPlainlySeen s where
  no_tag : HoldsNoTag s

instance decidableIsVerbatim : DecidablePred IsVerbatim := fun s =>
  decidable_of_iff (¬ ['\\', '['] <:+: s ∧ Emoji.replace s none = s ∧
    (s.all fun c => !isHidden c) = true ∧ HoldsNoTag s)
    (by
      simp only [List.all_eq_true, Bool.not_eq_true']
      exact ⟨fun ⟨hescape, hemoji, hhidden, htag⟩ => ⟨⟨hescape, hemoji, hhidden⟩, htag⟩,
        fun ⟨⟨hescape, hemoji, hhidden⟩, htag⟩ => ⟨hescape, hemoji, hhidden, htag⟩⟩)

/-- A text without marks is seen as it is. -/
theorem isVerbatim_of_no_marks
    (h : ∀ c ∈ s, isMark c = false) :
    IsVerbatim s := by
  have hno : ∀ m : Char, isMark m = true → m ∉ s := by
    intro m hm hmem
    rw [h m hmem] at hm
    cases hm
  refine ⟨⟨fun hescape => ?_, Emoji.replace_of_no_colon (hno ':' rfl), fun c hc => ?_⟩,
    .of_no_bracket (hno ']' rfl)⟩
  · exact hno '\\' rfl (hescape.subset (by simp))
  · cases hhidden : isHidden c with
    | false => rfl
    | true => exact absurd hc (hno c (isMark_of_isHidden hhidden))

/-- A text behind which nothing stands that has a meaning but colons. -/
theorem isVerbatim_append_iff
    {t : List Char}
    (hs : ':' ∉ s)
    (ht : ∀ c ∈ t, isMark c = true → c = ':') :
    IsVerbatim (s ++ t) ↔ IsVerbatim s ∧ Emoji.replace t none = t := by
  have hopen : '[' ∉ t := fun hmem => absurd (ht _ hmem rfl) (by decide)
  have hclose : ']' ∉ t := fun hmem => absurd (ht _ hmem rfl) (by decide)
  have hvisible : ∀ c ∈ t, isHidden c = false := by
    intro c hc
    by_contra hhidden
    rw [Bool.not_eq_false] at hhidden
    obtain rfl := ht c hc (isMark_of_isHidden hhidden)
    cases hhidden
  have hescape : ['\\', '['] <:+: s ++ t → ['\\', '['] <:+: s := by
    rintro ⟨before, after, heq⟩
    rcases List.append_eq_append_iff.mp heq with ⟨u, hu, -⟩ | ⟨u, hu, htail⟩
    · exact ⟨before, u, hu.symm⟩
    · rcases List.eq_nil_or_concat' u with rfl | ⟨v, c, rfl⟩
      · exact ⟨before, [], by simpa using hu⟩
      · have hlast := congrArg List.getLast? hu
        simp only [List.getLast?_append, List.getLast?_cons_cons, List.getLast?_singleton,
          Option.some_or] at hlast
        obtain rfl := Option.some.inj hlast
        exact absurd (by simp [htail]) hopen
  have hreplace := Emoji.replace_append_of_no_colon hs t
  constructor
  · rintro ⟨⟨hnone, hemoji, hhidden⟩, htag⟩
    rw [hreplace, List.append_cancel_left_eq] at hemoji
    exact ⟨⟨⟨fun h => hnone (h.trans (List.prefix_append s t).isInfix),
      Emoji.replace_of_no_colon hs,
      fun c hc => hhidden c (List.mem_append_left t hc)⟩, htag.of_append⟩, hemoji⟩
  · rintro ⟨⟨⟨hnone, -, hhidden⟩, htag⟩, hemoji⟩
    exact ⟨⟨fun h => hnone (hescape h), by rw [hreplace, hemoji],
      fun c hc => (List.mem_append.mp hc).elim (hhidden c) (hvisible c)⟩,
        htag.append hclose⟩

theorem render_of_holdsNoTag
    {text : String}
    (h : HoldsNoTag text.toList) :
    render text = .ok ⟨shown text.toList, []⟩ := by
  rw [render, parts_of_holdsNoTag h, List.append_nil, ← List.append_nil (plainPart _),
    renderParts_plainPart]
  simp [renderParts, Except.map]

/-- The texts that are seen as they are. -/
theorem render_eq_iff
    {text : String} :
    (∃ spans : List Span, render text = .ok ⟨text.toList, spans⟩) ↔
      IsVerbatim text.toList := by
  constructor
  · rintro ⟨spans, h⟩
    have hseen : text.toList = seenOf (parts [] text.toList) := renderParts_chars h
    have htag : HoldsNoTag text.toList := by
      by_contra hnot
      have hlost := (markCount_seenOf_parts [] text.toList).2 hnot
      rw [← hseen] at hlost
      exact absurd hlost (Nat.lt_irrefl _)
    rw [render_of_holdsNoTag htag] at h
    exact ⟨shown_eq_self_iff.mp (StyledText.mk.inj (Except.ok.inj h)).1, htag⟩
  · rintro ⟨hplain, htag⟩
    exact ⟨[], by rw [render_of_holdsNoTag htag, shown_eq_self_iff.mpr hplain]⟩

end Parts

end Markup
end Report
end HdlLint
