import HdlLint.Report.Markup
import Mathlib.Data.List.TakeWhile
import Mathlib.Tactic

/-!
# Texts with tags and without

What stands between brackets in a text is taken for a tag if it begins like one.  A text
in which nothing does is shown as it is; a text whose first tag closes something cannot be
shown, since nothing is open.

* `tagAt?_eq_some`: what is read as a tag.
* `parts_of_holdsNoTag` and `parts_append_tag`: the parts of a text without tags, and
  those up to the first tag.
* `renderParts_of_holdsNoTag`: a text without tags is shown, in no style.
* `renderParts_of_closesFirst`: a text whose first tag closes something is not.
-/

namespace HdlLint
namespace Report
namespace Markup

/-- What stands between the brackets of a tag: a character that begins one, and further
ones that are no brackets. -/
def IsTagBody (body : List Char) : Prop :=
  ∃ (c : Char) (r : List Char), body = c :: r ∧ beginsTag c = true ∧ ∀ x ∈ r,
    isNoBracket x = true

/-- Nothing in a text would be taken for a tag, even without backslashes before it. -/
def HoldsNoTag (s : List Char) : Prop :=
  ∀ before body after : List Char,
    IsTagBody body → s ≠ before ++ '[' :: (body ++ ']' :: after)

/-- The first tag of a text closes a style, and no backslash stands before it. -/
def ClosesFirst (s : List Char) : Prop :=
  ∃ before name after : List Char,
    HoldsNoTag before ∧ before.getLast? ≠ some '\\' ∧ (∀ x ∈ name, isNoBracket x = true) ∧
    s = before ++ '[' :: ('/' :: name ++ ']' :: after)

section Reading

variable {s body rest : List Char}

theorem IsTagBody.no_brackets
    (h : IsTagBody body) :
    ∀ x ∈ body, isNoBracket x = true := by
  obtain ⟨c, r, rfl, hc, hr⟩ := h
  have hopen : c ≠ '[' := by
    rintro rfl
    cases hc
  have hclose : c ≠ ']' := by
    rintro rfl
    cases hc
  simp only [List.forall_mem_cons]
  exact ⟨by simp [isNoBracket, hopen, hclose], hr⟩

theorem tagBody?_eq_some
    (h : tagBody? s = some (body, rest)) :
    IsTagBody body ∧ s = body ++ ']' :: rest := by
  unfold tagBody? at h
  split at h
  · cases h
  · rename_i c r
    split at h
    · rename_i hc
      split at h
      · rename_i rest' hrest
        cases h
        refine ⟨⟨c, _, rfl, hc, fun x hx => List.mem_takeWhile_imp hx⟩, ?_⟩
        rw [List.cons_append, ← hrest, List.takeWhile_append_dropWhile]
      · cases h
    · cases h

theorem tagBody?_append
    (h : IsTagBody body) (rest : List Char) :
    tagBody? (body ++ ']' :: rest) = some (body, rest) := by
  obtain ⟨c, r, rfl, hc, hr⟩ := h
  have htake : (r ++ ']' :: rest).takeWhile isNoBracket = r := by
    rw [List.takeWhile_append_of_pos hr]
    simp [isNoBracket]
  have hdrop : (r ++ ']' :: rest).dropWhile isNoBracket = ']' :: rest := by
    rw [List.dropWhile_append_of_pos hr]
    simp [isNoBracket]
  simp [tagBody?, hc, htake, hdrop]

/-- What is read as a tag at the beginning of a text. -/
theorem tagAt?_eq_some
    {n : Nat}
    (h : tagAt? s = some (n, body, rest)) :
    IsTagBody body ∧ s = List.replicate n '\\' ++ '[' :: (body ++ ']' :: rest) := by
  unfold tagAt? at h
  split at h
  · rename_i r hr
    obtain ⟨⟨body', rest'⟩, hbody, heq⟩ := Option.map_eq_some_iff.mp h
    cases heq
    obtain ⟨htag, rfl⟩ := tagBody?_eq_some hbody
    refine ⟨htag, ?_⟩
    have hslashes : List.replicate (s.takeWhile (· = '\\')).length '\\' =
        s.takeWhile (· = '\\') := by
      refine (List.eq_replicate_iff.mpr ⟨rfl, fun x hx => ?_⟩).symm
      simpa using List.mem_takeWhile_imp hx
    rw [hslashes, ← hr, List.takeWhile_append_dropWhile]
  · cases h

theorem tagAt?_tag
    (h : IsTagBody body) (rest : List Char) :
    tagAt? ('[' :: (body ++ ']' :: rest)) = some (0, body, rest) := by
  simp [tagAt?, tagBody?_append h]

theorem holdsNoTag_nil : HoldsNoTag [] := by
  rintro before body after - h
  simp at h

/-- A text holds no tag if none begins it and none is behind its first character. -/
theorem holdsNoTag_cons_iff
    {c : Char} :
    HoldsNoTag (c :: s) ↔ (c = '[' → tagBody? s = none) ∧ HoldsNoTag s := by
  constructor
  · refine fun h =>
      ⟨?_, fun before body after hbody hs =>
        h (c :: before) body after hbody (by rw [hs]; rfl)⟩
    rintro rfl
    rw [Option.eq_none_iff_forall_ne_some]
    rintro ⟨body, rest⟩ hsome
    obtain ⟨hbody, rfl⟩ := tagBody?_eq_some hsome
    exact h [] body rest hbody rfl
  · rintro ⟨hfirst, hrest⟩ before body after hbody hs
    cases before with
    | nil =>
        obtain ⟨rfl, rfl⟩ := List.cons.inj hs
        cases (tagBody?_append hbody after).symm.trans (hfirst rfl)
    | cons x before =>
        exact hrest before body after hbody (List.cons.inj hs).2

instance decidableHoldsNoTag : DecidablePred HoldsNoTag
  | [] => .isTrue holdsNoTag_nil
  | _ :: s =>
      have := decidableHoldsNoTag s
      decidable_of_iff' _ holdsNoTag_cons_iff

end Reading

section Parts

variable {s read : List Char}

theorem parts_nil
    (read : List Char) :
    parts read [] = plainPart read := by
  rw [parts]

theorem parts_cons_of_none
    {c : Char} {r : List Char}
    (h : tagAt? (c :: r) = none) (read : List Char) :
    parts read (c :: r) = parts (c :: read) r := by
  rw [parts]
  split
  · rename_i n body rest htag
    rw [h] at htag
    cases htag
  · rfl

/-- Nothing is made a tag by what stands before it without an opening bracket. -/
theorem HoldsNoTag.append_left
    {u : List Char}
    (h : HoldsNoTag s)
    (hu : '[' ∉ u) :
    HoldsNoTag (u ++ s) := by
  induction u with
  | nil =>
      exact h
  | cons c u ih =>
      rw [List.mem_cons, not_or] at hu
      intro before body after hbody hs
      cases before with
      | nil =>
          exact hu.1 (List.cons.inj hs).1.symm
      | cons d before =>
          exact ih hu.2 before body after hbody (List.cons.inj hs).2

theorem HoldsNoTag.of_no_bracket
    (h : ']' ∉ s) :
    HoldsNoTag s := by
  rintro before body after - rfl
  exact h (by simp)

/-- Nothing is made a tag by what stands behind it without a closing bracket. -/
theorem HoldsNoTag.append
    {t : List Char}
    (h : HoldsNoTag s)
    (ht : ']' ∉ t) :
    HoldsNoTag (s ++ t) := by
  intro before body after hbody hs
  rw [← List.cons_append, ← List.append_assoc] at hs
  rcases List.append_eq_append_iff.mp hs with ⟨between, -, ht'⟩ | ⟨between, hs', hafter⟩
  · exact ht (by simp [ht'])
  · cases between with
    | nil =>
        exact ht (by simp at hafter; simp [← hafter])
    | cons c between =>
        obtain ⟨rfl, -⟩ := List.cons.inj hafter
        exact h before body between hbody (by simp [hs'])

/-- A text without tags is one part, if it holds anything. -/
theorem parts_of_holdsNoTag
    (h : HoldsNoTag s) (read : List Char) :
    parts read s = plainPart (s.reverse ++ read) := by
  induction s generalizing read with
  | nil =>
      exact parts_nil read
  | cons c s ih =>
      have hnone : tagAt? (c :: s) = none := by
        by_contra hsome
        obtain ⟨⟨n, body, rest⟩, htag⟩ := Option.ne_none_iff_exists'.mp hsome
        obtain ⟨hbody, hs⟩ := tagAt?_eq_some htag
        exact h _ body rest hbody hs
      rw [parts_cons_of_none hnone, ih (holdsNoTag_cons_iff.mp h).2,
        List.reverse_cons, List.append_assoc]
      rfl

/-- Before an opening bracket no tag begins, unless it is a backslash. -/
theorem tagAt?_append_open
    (h : HoldsNoTag s)
    (hne : s ≠ [])
    (hlast : s.getLast? ≠ some '\\') (rest : List Char) :
    tagAt? (s ++ '[' :: rest) = none := by
  by_contra hsome
  obtain ⟨⟨n, body, rest'⟩, htag⟩ := Option.ne_none_iff_exists'.mp hsome
  obtain ⟨hbody, hs⟩ := tagAt?_eq_some htag
  -- the text cannot be made of the backslashes before the tag, since it does not end in
  -- one
  have hslashes : ∀ (m : Nat) (u : List Char),
      List.replicate m '\\' = s ++ u → False := by
    intro m u hu
    obtain ⟨w, c, rfl⟩ := List.eq_nil_or_concat' s |>.resolve_left hne
    have hc : c ∈ List.replicate m '\\' := by
      simp [hu]
    rw [List.eq_of_mem_replicate hc] at hlast
    exact hlast (by simp)
  rcases List.append_eq_append_iff.mp hs with ⟨u, hu, -⟩ | ⟨u, hu, hrest⟩
  · exact hslashes n u hu
  cases u with
  | nil =>
      exact hslashes n [] (by simp [hu])
  | cons c u =>
      obtain ⟨rfl, hinside⟩ := List.cons.inj hrest
      -- the bracket that closes the tag would stand before the next one that opens
      rcases List.append_eq_append_iff.mp hinside with ⟨v, rfl, hv⟩ | ⟨v, hv, hopen⟩
      · cases v with
        | nil =>
            cases (List.cons.inj hv).1
        | cons d v =>
            obtain ⟨rfl, -⟩ := List.cons.inj hv
            exact h _ body v hbody hu
      · cases v with
        | nil =>
            cases (List.cons.inj hopen).1
        | cons d v =>
            obtain ⟨rfl, -⟩ := List.cons.inj hopen
            have hmem := hbody.no_brackets '[' (by simp [hv])
            cases hmem

/-- The parts up to the first tag, and those behind it. -/
theorem parts_append_tag
    {body : List Char}
    (h : HoldsNoTag s)
    (hlast : s.getLast? ≠ some '\\')
    (hbody : IsTagBody body) (read rest : List Char) :
    parts read (s ++ '[' :: (body ++ ']' :: rest)) =
      plainPart (s.reverse ++ read) ++ .tag body :: parts [] rest := by
  induction s generalizing read with
  | nil =>
      rw [List.nil_append, parts]
      split
      · rename_i n body' rest' htag
        rw [tagAt?_tag hbody] at htag
        cases htag
        simp [escapedTag, plainPart]
      · rename_i htag
        rw [tagAt?_tag hbody] at htag
        cases htag
  | cons c s ih =>
      have hnone : tagAt? (c :: (s ++ '[' :: (body ++ ']' :: rest))) = none :=
        tagAt?_append_open h (List.cons_ne_nil c s) hlast _
      have hlast' : s.getLast? ≠ some '\\' := by
        intro hs
        rw [List.getLast?_cons, hs] at hlast
        exact hlast rfl
      have hrest := (holdsNoTag_cons_iff.mp h).2
      rw [List.cons_append, parts_cons_of_none hnone, ih hrest hlast',
        List.reverse_cons, List.append_assoc]
      rfl

end Parts

section Rendering

variable {s : List Char}

theorem renderParts_plainPart
    (position : Nat) (opened : List OpenTag) (read : List Char) (rest : List Part) :
    renderParts position opened (plainPart read ++ rest) =
      (renderParts (position + (shown read.reverse).length) opened rest).map fun t =>
        ⟨shown read.reverse ++ t.chars, t.spans⟩ := by
  cases read with
  | nil =>
      have hnothing : shown [] = [] := rfl
      simp only [plainPart, List.isEmpty_nil, if_true, List.nil_append, List.reverse_nil,
        hnothing, List.length_nil,
        Nat.add_zero]
      cases renderParts position opened rest <;> rfl
  | cons c read =>
      rw [plainPart, List.isEmpty_cons, if_neg Bool.false_ne_true,
        List.singleton_append, renderParts]
      cases renderParts (position + (shown (c :: read).reverse).length)
        opened rest <;> rfl

/-- A text without tags is shown, in no style. -/
theorem renderParts_of_holdsNoTag
    (h : HoldsNoTag s) (position : Nat) :
    ∃ chars : List Char, renderParts position [] (parts [] s) = .ok ⟨chars, []⟩ := by
  rw [parts_of_holdsNoTag h, List.append_nil, ← List.append_nil (plainPart _),
    renderParts_plainPart]
  exact ⟨_, rfl⟩

/-- A closing tag is an error where nothing is open. -/
theorem applyTag_close_nothing
    (position : Nat) (name : List Char) :
    ∃ c : Crash, applyTag position [] ('/' :: name) = .error c := by
  have hname : tagName ('/' :: name) = '/' :: tagName name := by
    simp [tagName]
  have hclosed : ∃ c : Crash, closed [] ('/' :: name) (tagName name) = .error c := by
    unfold closed
    simp only
    split
    · exact ⟨unmatched ('/' :: name), rfl⟩
    · cases Style.normalize (Text.trim (String.ofList (tagName name))) with
      | error c =>
          exact ⟨c, rfl⟩
      | ok name =>
          exact ⟨unmatched ('/' :: _), rfl⟩
  obtain ⟨c, hc⟩ := hclosed
  refine ⟨c, ?_⟩
  rw [applyTag, hname]
  simp only [hc]
  rfl

/-- A text whose first tag closes something cannot be shown. -/
theorem renderParts_of_closesFirst
    (h : ClosesFirst s) (position : Nat) :
    ∃ c : Crash, renderParts position [] (parts [] s) = .error c := by
  obtain ⟨before, name, after, hbefore, hlast, hname, rfl⟩ := h
  have hbody : IsTagBody ('/' :: name) := ⟨'/', name, rfl, rfl, hname⟩
  rw [parts_append_tag hbefore hlast hbody, renderParts_plainPart, renderParts]
  obtain ⟨c, hc⟩ :=
    applyTag_close_nothing (position + (shown (before.reverse ++ []).reverse).length) name
  refine ⟨c, ?_⟩
  rw [hc]
  rfl

theorem ClosesFirst.append
    (h : ClosesFirst s) (t : List Char) :
    ClosesFirst (s ++ t) := by
  obtain ⟨before, name, after, hbefore, hlast, hname, rfl⟩ := h
  exact ⟨before, name, after ++ t, hbefore, hlast, hname, by simp⟩

/-- What stands before the first tag does not matter unless it is an opening bracket or a
backslash. -/
theorem ClosesFirst.append_left
    {u : List Char}
    (h : ClosesFirst s)
    (hu : '[' ∉ u)
    (hslash : '\\' ∉ u) :
    ClosesFirst (u ++ s) := by
  obtain ⟨before, name, after, hbefore, hlast, hname, rfl⟩ := h
  refine ⟨u ++ before, name, after, hbefore.append_left hu, ?_, hname, by simp⟩
  intro hend
  rw [List.getLast?_append, Option.or_eq_some_iff] at hend
  obtain hend | ⟨-, hend⟩ := hend
  · exact hlast hend
  · exact hslash (List.mem_of_getLast? hend)

end Rendering

end Markup
end Report
end HdlLint
