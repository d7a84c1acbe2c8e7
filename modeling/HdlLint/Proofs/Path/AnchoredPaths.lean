import HdlLint.Path.Platform
import HdlLint.Proofs.Path.Components
import Mathlib.Data.List.TakeWhile

/-!
# Paths seen from an anchored folder

A folder is anchored if it begins with a slash or, on Windows, with a drive and a
separator.  A relative path seen from such a folder, in its normal form, is the anchor of
the folder followed by where the components of the folder and those of the path lead from
there.

* `Posix.normalize_join` and `Windows.normalize_join`: both kinds of paths.
* `Platform.locate_of_anchored`: every platform.
* `Platform.locate_self`: such a path is its own normal form, from wherever it is seen.
-/

namespace HdlLint

namespace Path

section Below

variable {isSeparator : Char → Bool} {folder : List Char}

/-- A separator at the end of a folder leads nowhere. -/
theorem walk_splitOn_append
    (hend : folder.getLast?.any isSeparator = true) (s : List Char) :
    walk (splitOn isSeparator (folder ++ s)) =
      walk (splitOn isSeparator folder ++ splitOn isSeparator s) := by
  obtain ⟨c, hlast, hc⟩ := (Option.any_eq_true _ _).mp hend
  obtain ⟨front, rfl⟩ := List.getLast?_eq_some_iff.mp hlast
  rw [List.append_assoc, List.singleton_append, splitOn_append_separator hc,
    splitOn_append_separator hc,
    List.append_assoc]
  exact (walk_append_nil_cons _ _).symm

/-- Neither does one in front of a path. -/
theorem walk_splitOn_separator
    {c : Char}
    (h : isSeparator c = true) (s : List Char) :
    walk (splitOn isSeparator (c :: s)) = walk (splitOn isSeparator s) := by
  rw [splitOn_separator h]
  exact walk_append_nil_cons [] _

end Below

namespace Posix

variable {folder s : List Char}

theorem isAbsolute_iff :
    isAbsolute s = true ↔ ∃ r : List Char, s = '/' :: r := by
  rw [isAbsolute, decide_eq_true_iff, List.head?_eq_some_iff]

theorem takeWhile_slash
    (h : isAbsolute s = false) :
    s.takeWhile (· = '/') = [] := by
  cases s with
  | nil =>
      rfl
  | cons c r =>
      have hc : c ≠ '/' := by simpa [isAbsolute] using h
      simp [hc]

/-- The anchor is one slash, but for a path that begins with exactly two of them. -/
theorem anchor_eq
    (h : isAbsolute s = true) :
    anchor s = if (s.takeWhile (· = '/')).length = 2 then ['/', '/'] else ['/'] := by
  have hstop : ∀ r : List Char, (∀ t : List Char, r ≠ '/' :: t) →
      r.takeWhile (· = '/') = [] := by
    intro r hr
    refine takeWhile_slash (Bool.eq_false_iff.mpr fun habsolute => ?_)
    obtain ⟨t, ht⟩ := isAbsolute_iff.mp habsolute
    exact hr t ht
  fun_cases anchor s with
  | case1 r =>
      simp
  | case2 r hthird =>
      simp [hstop r hthird]
  | case3 r _ hsecond =>
      simp [hstop r hsecond]
  | case4 _ _ _ hfirst =>
      obtain ⟨r, rfl⟩ := isAbsolute_iff.mp h
      exact absurd rfl (hfirst r)

/-- What stands behind an absolute folder does not change its anchor, unless slashes stand
on both sides. -/
theorem anchor_append
    (hfolder : isAbsolute folder = true)
    (h : isAbsolute s = false ∨ folder.getLast? ≠ some '/') :
    anchor (folder ++ s) = anchor folder := by
  obtain ⟨r, hr⟩ := isAbsolute_iff.mp hfolder
  have happend : isAbsolute (folder ++ s) = true :=
    isAbsolute_iff.mpr ⟨r ++ s, by rw [hr, List.cons_append]⟩
  have hslashes : (folder ++ s).takeWhile (· = '/') = folder.takeWhile (· = '/') := by
    rw [List.takeWhile_append]
    split
    · rename_i hlength
      have hall : folder.takeWhile (· = '/') = folder :=
        (List.takeWhile_prefix _).eq_of_length hlength
      rcases h with hs | hlast
      · rw [takeWhile_slash hs, List.append_nil, hall]
      · have hne : folder ≠ [] := by simp [hr]
        have hmem : folder.getLast hne ∈ folder.takeWhile (· = '/') := by
          rw [hall]
          exact List.getLast_mem hne
        have hslash : folder.getLast hne = '/' := by
          simpa using List.mem_takeWhile_imp hmem
        rw [List.getLast?_eq_some_getLast hne, hslash] at hlast
        exact absurd rfl hlast
    · rfl
  rw [anchor_eq happend, anchor_eq hfolder, hslashes]

theorem normalize_of_isAbsolute
    (h : isAbsolute s = true) :
    normalize s = anchor s ++ joinWith '/' (walk (splitOn isSeparator s)) := by
  have hanchor : (anchor s).isEmpty = false := by
    rw [anchor_eq h]
    split <;> rfl
  have hresult : (anchor s ++ joinWith '/' (walk (splitOn isSeparator s))).isEmpty =
      false := by
    rw [List.isEmpty_eq_false_iff] at hanchor ⊢
    exact List.append_ne_nil_of_left_ne_nil hanchor _
  simp only [normalize, hanchor, Bool.not_false, resolve_anchored, hresult,
    Bool.false_eq_true, if_false]

/-- A relative path seen from an absolute folder, in its normal form. -/
theorem normalize_join
    (hfolder : isAbsolute folder = true)
    (hs : isAbsolute s = false) :
    normalize (join folder s) =
      anchor folder ++ joinWith '/'
        (walk (splitOn isSeparator folder ++ splitOn isSeparator s)) := by
  obtain ⟨r, hr⟩ := isAbsolute_iff.mp hfolder
  have habsolute : ∀ t : List Char, isAbsolute (folder ++ t) = true := fun t =>
    isAbsolute_iff.mpr ⟨r ++ t, by rw [hr, List.cons_append]⟩
  have hne : folder.isEmpty = false := by
    rw [hr]
    rfl
  rw [join, if_neg (Bool.eq_false_iff.mp hs), hne, Bool.false_or]
  by_cases hend : folder.getLast? = some '/'
  · have hseparator : folder.getLast?.any isSeparator = true := by
      rw [hend]
      rfl
    rw [if_pos (decide_eq_true hend), normalize_of_isAbsolute (habsolute s),
      anchor_append hfolder (Or.inl hs),
      walk_splitOn_append hseparator]
  · have hslash : isSeparator '/' = true := rfl
    rw [if_neg (by simpa using hend), normalize_of_isAbsolute (habsolute _),
      anchor_append hfolder (Or.inr hend),
      splitOn_append_separator hslash]

/-- Slashes and a path in its normal form behind them are their own normal form, from
wherever they are seen. -/
theorem normalize_join_self
    {slashes : List Char}
    (hslashes : slashes = ['/'] ∨ slashes = ['/', '/'])
    (hs : isAbsolute s = false)
    (hwalk : joinWith '/' (walk (splitOn isSeparator s)) = s) (viewpoint : List Char) :
    normalize (join viewpoint (slashes ++ s)) = slashes ++ s := by
  have hanchored : isAbsolute slashes = true ∧ anchor slashes = slashes := by
    rcases hslashes with rfl | rfl <;> exact ⟨rfl, rfl⟩
  have habsolute : isAbsolute (slashes ++ s) = true := by
    rcases hslashes with rfl | rfl <;> rfl
  have hidle : walk (splitOn isSeparator (slashes ++ s)) =
      walk (splitOn isSeparator s) := by
    rcases hslashes with rfl | rfl
    · exact walk_splitOn_separator rfl s
    · exact (walk_splitOn_separator rfl _).trans (walk_splitOn_separator rfl s)
  rw [join, if_pos habsolute, normalize_of_isAbsolute habsolute,
    anchor_append hanchored.1 (Or.inl hs),
    hanchored.2, hidle, hwalk]

end Posix

namespace Windows

variable {folder s : List Char} {drive c : Char}

theorem isSeparator_toBackslash
    (c : Char) :
    isSeparator (if c = '/' then '\\' else c) = isSeparator c := by
  by_cases hc : c = '/' <;> simp [isSeparator, hc]

/-- Components do not tell one separator from the other. -/
theorem splitOn_toBackslashes
    (s : List Char) :
    splitOn isSeparator (toBackslashes s) = splitOn isSeparator s := by
  induction s with
  | nil =>
      rfl
  | cons c s ih =>
      have hcons : toBackslashes (c :: s) =
          (if c = '/' then '\\' else c) :: toBackslashes s := rfl
      rw [hcons]
      cases hc : isSeparator c with
      | true =>
          rw [splitOn_separator hc,
            splitOn_separator (by rw [isSeparator_toBackslash, hc]), ih]
      | false =>
          have hslash : c ≠ '/' := by
            rintro rfl
            cases hc
          rw [if_neg hslash]
          obtain ⟨w, ws, hs, hsplit⟩ := splitOn_cons hc s
          obtain ⟨w', ws', hs', hsplit'⟩ := splitOn_cons hc (toBackslashes s)
          rw [ih, hs] at hs'
          obtain ⟨rfl, rfl⟩ := List.cons.inj hs'
          rw [hsplit, hsplit']

theorem splitDrive_drive
    (hdrive : isSeparator drive = false) (s : List Char) :
    splitDrive (drive :: ':' :: s) = ([drive, ':'], s) := by
  simp [splitDrive, driveLength, hdrive]

/-- A path that is not absolute and has no colon behind its first character has no
drive. -/
theorem splitDrive_of_relative
    (habsolute : isAbsolute s = false)
    (hcolon : s[1]? ≠ some ':') :
    splitDrive s = ([], s) := by
  match s with
  | [] =>
      rfl
  | [a] =>
      rfl
  | a :: b :: r =>
      have ha : isSeparator a = false := by
        simp only [isAbsolute, Bool.or_eq_false_iff] at habsolute
        exact habsolute.1
      have hb : b ≠ ':' := by simpa using hcolon
      simp [splitDrive, driveLength, ha, hb]

theorem startsWithSeparator_of_relative
    (habsolute : isAbsolute s = false) :
    startsWithSeparator s = false := by
  cases s with
  | nil =>
      rfl
  | cons a r =>
      simp only [isAbsolute, Bool.or_eq_false_iff] at habsolute
      simpa [startsWithSeparator] using habsolute.1

theorem join_of_relative
    (hdrive : isSeparator drive = false)
    (hc : isSeparator c = true)
    (habsolute : isAbsolute s = false)
    (hcolon : s[1]? ≠ some ':') (r : List Char) :
    join (drive :: ':' :: c :: r) s = drive :: ':' :: below (c :: r) s := by
  have hstart : startsWithSeparator (below (c :: r) s) = true := by
    unfold below
    split <;> simp [startsWithSeparator, hc]
  simp [join, splitDrive_drive hdrive, splitDrive_of_relative habsolute hcolon,
    startsWithSeparator_of_relative habsolute, assemble, hstart]

theorem walk_splitOn_below
    (folder s : List Char) :
    walk (splitOn isSeparator (below folder s)) =
      walk (splitOn isSeparator folder ++ splitOn isSeparator s) := by
  unfold below
  split
  · have hbackslash : isSeparator '\\' = true := rfl
    rw [splitOn_append_separator hbackslash]
  · rename_i h
    cases folder with
    | nil =>
        exact (walk_append_nil_cons [] _).symm
    | cons a r =>
        refine walk_splitOn_append ?_ s
        simpa [endsWithSeparator] using h

theorem normalize_drive
    (hdrive : isSeparator drive = false)
    (hc : isSeparator c = true) (r : List Char) :
    normalize (drive :: ':' :: c :: r) =
      [drive, ':', '\\'] ++ joinWith '\\' (walk (splitOn isSeparator (c :: r))) := by
  have hslash : drive ≠ '/' := by
    rintro rfl
    cases hdrive
  have hbackslashes : toBackslashes (drive :: ':' :: c :: r) =
      drive :: ':' :: toBackslashes (c :: r) := by
    simp [toBackslashes, hslash]
  have hstart : startsWithSeparator (toBackslashes (c :: r)) = true := by
    simpa [toBackslashes, startsWithSeparator, isSeparator_toBackslash] using hc
  have hanchored : endsWithSeparator [drive, ':', '\\'] = true := rfl
  rw [normalize, hbackslashes, splitDrive_drive hdrive]
  simp [hstart, hanchored, resolve_anchored, splitOn_toBackslashes]

/-- A relative path seen from a folder on a drive, in its normal form. -/
theorem normalize_join
    (hdrive : isSeparator drive = false)
    (hc : isSeparator c = true)
    (habsolute : isAbsolute s = false)
    (hcolon : s[1]? ≠ some ':') (r : List Char) :
    normalize (join (drive :: ':' :: c :: r) s) =
      [drive, ':', '\\'] ++
        joinWith '\\' (walk (splitOn isSeparator (c :: r) ++ splitOn isSeparator s)) := by
  have hbelow : ∃ t : List Char, below (c :: r) s = c :: t := by
    unfold below
    split
    · exact ⟨_, rfl⟩
    · exact ⟨_, rfl⟩
  obtain ⟨t, ht⟩ := hbelow
  rw [join_of_relative hdrive hc habsolute hcolon, ← walk_splitOn_below, ht,
    normalize_drive hdrive hc]

/-- A path on a drive stands for itself. -/
theorem join_self
    (hdrive : isSeparator drive = false)
    (hc : isSeparator c = true) (folder r : List Char) :
    join folder (drive :: ':' :: c :: r) = drive :: ':' :: c :: r := by
  have hstart : startsWithSeparator (c :: r) = true := by
    simpa [startsWithSeparator] using hc
  simp [join, splitDrive_drive hdrive, hstart, assemble]

end Windows
end Path

namespace Platform

open HdlLint.Path

/-- The character that is written between components. -/
def separator (p : Platform) : Char :=
  if p.isWindows then '\\' else '/'

/-- The characters that separate components. -/
def isSeparator (p : Platform) : Char → Bool :=
  if p.isWindows then Windows.isSeparator else Posix.isSeparator

def components (p : Platform) (s : List Char) : List Component :=
  splitOn p.isSeparator s

/-- A folder that begins with a slash, or on Windows with a drive and a separator.  A
letter is a drive, but so is every other character that does not separate. -/
inductive IsAnchored (p : Platform) : List Char → Prop
  | slash
      {r : List Char}
      (hplatform : p.isWindows = false) :
      IsAnchored p ('/' :: r)
  | drive
      {drive c : Char} {r : List Char}
      (hplatform : p.isWindows = true)
      (hdrive : Windows.isSeparator drive = false)
      (hc : Windows.isSeparator c = true) :
      IsAnchored p (drive :: ':' :: c :: r)

/-- A path that is to be seen from a folder: it is not absolute and, on Windows, has no
colon as its second character. -/
structure IsRelative (p : Platform) (path : String) : Prop where
  notAbsolute : p.isAbsolute path = false
  noColon : p.isWindows = true → path.toList[1]? ≠ some ':'

/-- The anchor of a folder: a slash, two of them if it begins with exactly two, or on
Windows the drive and a backslash. -/
def anchor (p : Platform) (folder : List Char) : List Char :=
  if p.isWindows then folder.take 2 ++ ['\\']
  else if (folder.takeWhile (· = '/')).length = 2 then ['/', '/']
  else ['/']

/-- A folder without its drive. -/
def withoutDrive (p : Platform) (folder : List Char) : List Char :=
  if p.isWindows then folder.drop 2 else folder

/-- Where a path leads from the anchor of a folder. -/
def place (p : Platform) (folder path : List Char) : List Component :=
  walk (p.components (p.withoutDrive folder) ++ p.components path)

/-- The components of what stands behind an anchor; nothing has none. -/
def componentsBehind (p : Platform) (s : List Char) : List Component :=
  if s = [] then [] else p.components s

section Anchored

variable {p : Platform} {folder : List Char} {names : List Component}

theorem isSeparator_separator
    (p : Platform) :
    p.isSeparator p.separator = true := by
  unfold isSeparator separator
  cases p.isWindows <;> rfl

theorem isName_of_mem_place
    {path : List Char} {w : Component}
    (h : w ∈ p.place folder path) :
    IsName w :=
  isName_of_mem_walk h

theorem not_isSeparator_of_mem_place
    {path : List Char} {w : Component}
    (h : w ∈ p.place folder path) :
    ∀ c ∈ w, p.isSeparator c = false := by
  intro c hc
  rcases List.mem_append.mp (mem_of_mem_walk h) with hw | hw
  · exact not_isSeparator_of_mem_splitOn hw hc
  · exact not_isSeparator_of_mem_splitOn hw hc

theorem IsAnchored.isAbsolute
    (h : p.IsAnchored folder)
    (hplatform : p.isWindows = false) :
    Posix.isAbsolute folder = true := by
  cases h with
  | slash =>
      rfl
  | drive hwindows =>
      rw [hplatform] at hwindows
      cases hwindows

theorem IsAnchored.exists_drive
    (h : p.IsAnchored folder)
    (hplatform : p.isWindows = true) :
    ∃ (drive c : Char) (r : List Char),
      folder = drive :: ':' :: c :: r ∧
      Windows.isSeparator drive = false ∧ Windows.isSeparator c = true := by
  cases h with
  | slash hnative =>
      rw [hplatform] at hnative
      cases hnative
  | drive _ hdrive hc =>
      exact ⟨_, _, _, rfl, hdrive, hc⟩

/-- A relative path seen from an anchored folder, in its normal form. -/
theorem locate_of_anchored
    {folder path : String}
    (hfolder : p.IsAnchored folder.toList)
    (hpath : p.IsRelative path) :
    (p.locate folder path).toList =
      p.anchor folder.toList ++
        joinWith p.separator (p.place folder.toList path.toList) := by
  obtain ⟨habsolute, hcolon⟩ := hpath
  cases hplatform : p.isWindows with
  | false =>
      have hanchored := hfolder.isAbsolute hplatform
      simp only [Platform.isAbsolute, locate, anchor, separator, place, components,
        isSeparator, withoutDrive,
        hplatform, Bool.false_eq_true, if_false, String.toList_ofList] at habsolute ⊢
      rw [Posix.normalize_join hanchored habsolute, Posix.anchor_eq hanchored]
  | true =>
      obtain ⟨drive, c, r, hr, hdrive, hc⟩ := hfolder.exists_drive hplatform
      simp only [Platform.isAbsolute, locate, anchor, separator, place, components,
        isSeparator, withoutDrive,
        hplatform, if_true, String.toList_ofList, hr] at habsolute ⊢
      exact Windows.normalize_join hdrive hc habsolute (hcolon hplatform) r

/-- An anchor is one of a path of its own. -/
theorem isAnchored_append
    (h : p.IsAnchored folder) (s : List Char) :
    p.IsAnchored (p.anchor folder ++ s) := by
  cases hplatform : p.isWindows with
  | false =>
      simp only [anchor, hplatform, Bool.false_eq_true, if_false]
      split
      · exact .slash hplatform
      · exact .slash hplatform
  | true =>
      obtain ⟨drive, c, r, rfl, hdrive, -⟩ := h.exists_drive hplatform
      simp only [anchor, hplatform, if_true]
      exact .drive hplatform hdrive rfl

theorem isAbsolute_of_isAnchored
    {path : String}
    (h : p.IsAnchored path.toList) :
    p.isAbsolute path = true := by
  unfold isAbsolute
  cases hplatform : p.isWindows with
  | false =>
      exact h.isAbsolute hplatform
  | true =>
      obtain ⟨drive, c, r, hr, hdrive, hc⟩ := h.exists_drive hplatform
      simp [hr, Windows.isAbsolute, hc]

/-- Names that are put together begin with no separator. -/
theorem joinWith_names_cases
    (hname : ∀ w ∈ names, IsName w)
    (hfree : ∀ w ∈ names, ∀ c ∈ w, p.isSeparator c = false) :
    (names = [] ∧ joinWith p.separator names = []) ∨
    (names ≠ [] ∧ ∃ (c : Char) (r : List Char),
      joinWith p.separator names = c :: r ∧ p.isSeparator c = false) := by
  cases names with
  | nil =>
      exact Or.inl ⟨rfl, rfl⟩
  | cons w ws =>
      obtain ⟨c, w', rfl⟩ :=
        List.exists_cons_of_ne_nil (hname w List.mem_cons_self).ne_nil
      exact Or.inr ⟨by simp, c, _, joinWith_cons p.separator (c :: w') ws,
        hfree _ List.mem_cons_self c List.mem_cons_self⟩

/-- Names that are put together are read again. -/
theorem componentsBehind_joinWith
    (hname : ∀ w ∈ names, IsName w)
    (hfree : ∀ w ∈ names, ∀ c ∈ w, p.isSeparator c = false) :
    p.componentsBehind (joinWith p.separator names) = names := by
  rcases joinWith_names_cases hname hfree with ⟨rfl, hnil⟩ | ⟨hne, c, r, hjoined, -⟩
  · rw [componentsBehind, if_pos hnil]
  · rw [componentsBehind, if_neg (by simp [hjoined]), components,
      splitOn_joinWith p.isSeparator_separator hne hfree]

/-- The last component is the last name behind the anchor, if there is any. -/
theorem getLast?_components
    (hne : names ≠ [])
    (hfree : ∀ w ∈ names, ∀ c ∈ w, p.isSeparator c = false) :
    (p.components (p.anchor folder ++ joinWith p.separator names)).getLast? =
      names.getLast? := by
  have hanchor : ∃ front : List Char, p.anchor folder = front ++ [p.separator] := by
    unfold anchor separator
    split
    · exact ⟨folder.take 2, rfl⟩
    · split
      · exact ⟨['/'], rfl⟩
      · exact ⟨[], rfl⟩
  obtain ⟨front, hfront⟩ := hanchor
  rw [hfront, List.append_assoc, List.singleton_append, components,
    splitOn_append_separator p.isSeparator_separator,
      splitOn_joinWith p.isSeparator_separator hne hfree,
    List.getLast?_append_of_ne_nil _ hne]

theorem walk_splitOn_joinWith
    (hname : ∀ w ∈ names, IsName w)
    (hfree : ∀ w ∈ names, ∀ c ∈ w, p.isSeparator c = false) :
    walk (splitOn p.isSeparator (joinWith p.separator names)) = names := by
  by_cases hne : names = []
  · subst hne
    rfl
  · rw [splitOn_joinWith p.isSeparator_separator hne hfree, walk_of_names hname]

/-- Names behind the anchor of a folder are their own normal form, from wherever they are
seen. -/
theorem locate_self
    {path : String}
    (hfolder : p.IsAnchored folder)
    (hname : ∀ w ∈ names, IsName w)
    (hfree : ∀ w ∈ names, ∀ c ∈ w, p.isSeparator c = false)
    (hpath : path.toList = p.anchor folder ++ joinWith p.separator names)
    (viewpoint : String) :
    p.locate viewpoint path = path := by
  have hwalk := walk_splitOn_joinWith hname hfree
  rw [← String.toList_inj]
  cases hplatform : p.isWindows with
  | false =>
      have hrelative : Posix.isAbsolute (joinWith p.separator names) = false := by
        rcases joinWith_names_cases hname hfree with ⟨-, hnil⟩ | ⟨-, c, r, hjoined, hc⟩
        · rw [hnil]
          rfl
        · rw [hjoined]
          simpa [Posix.isAbsolute, isSeparator, hplatform, Posix.isSeparator] using hc
      simp only [locate, anchor, separator, isSeparator, hplatform,
        Bool.false_eq_true, if_false,
        String.toList_ofList] at hrelative hwalk hpath ⊢
      rw [hpath]
      refine Posix.normalize_join_self ?_ hrelative (by rw [hwalk]) viewpoint.toList
      split
      · exact Or.inr rfl
      · exact Or.inl rfl
  | true =>
      obtain ⟨drive, c, r, rfl, hdrive, -⟩ := hfolder.exists_drive hplatform
      simp only [locate, anchor, separator, isSeparator, hplatform, if_true,
        String.toList_ofList] at hwalk hpath ⊢
      rw [hpath]
      simp only [List.take_succ_cons, List.take_zero, List.cons_append, List.nil_append]
      rw [Windows.join_self hdrive rfl, Windows.normalize_drive hdrive rfl,
        walk_splitOn_separator rfl, hwalk]
      rfl

end Anchored
end Platform
end HdlLint
