import HdlLint.Proofs.Diagnostic.RoundTrip
import HdlLint.Proofs.Diagnostic.LineAccount
import HdlLint.Proofs.Path.AnchoredPaths

/-!
# What a relative path stands for

A relative path that the linter reports is seen from the workspace root, if the linter ran
there.  What it stands for is an absolute path in normal form, and it names the same file:
the last component of a path that stands in a diagnostic line is kept.

* `DiagnosticLine.IsPath.exists_last_name`: the path of a diagnostic line ends in a name.
* `PathScope.resolve_from_root`: the path that a relative path stands for.
-/

namespace HdlLint

open HdlLint.Path

theorem Platform.eq_of_isSeparator
    {p : Platform} {c : Char}
    (h : p.isSeparator c = true) :
    c = '/' ∨ c = '\\' := by
  unfold Platform.isSeparator at h
  split at h
  · simpa [Windows.isSeparator] using h
  · exact Or.inl (by simpa [Posix.isSeparator] using h)

theorem Platform.not_isSeparator
    {c : Char}
    (p : Platform)
    (hslash : c ≠ '/')
    (hbackslash : c ≠ '\\') :
    p.isSeparator c = false := by
  refine Bool.eq_false_iff.mpr fun h => ?_
  rcases eq_of_isSeparator h with rfl | rfl
  · exact hslash rfl
  · exact hbackslash rfl

/-- The last component of a path with an extension is a name. -/
theorem DiagnosticLine.IsPath.exists_last_name
    {path : List Char}
    (h : IsPath path) (p : Platform) :
    ∃ (ws : List Component) (w : Component),
      p.components path = ws ++ [w] ∧ IsName w := by
  obtain ⟨-, stem, extension, rfl, hne, hletters⟩ := h
  have hfree : ∀ c ∈ '.' :: extension, p.isSeparator c = false := by
    intro c hc
    rcases List.mem_cons.mp hc with rfl | hc
    · exact p.not_isSeparator (by decide) (by decide)
    · have hletter := hletters c hc
      refine p.not_isSeparator ?_ ?_
      · rintro rfl
        exact absurd hletter (by decide)
      · rintro rfl
        exact absurd hletter (by decide)
  obtain ⟨ws, w, hsplit⟩ := splitOn_append_free hfree stem
  -- the component ends in a letter, and the two that are no names end in a dot
  have hlast : (w ++ '.' :: extension).getLast? ≠ some '.' := by
    rw [List.getLast?_append_cons, List.getLast?_cons_of_ne_nil hne, Ne,
      List.getLast?_eq_some_iff]
    rintro ⟨front, rfl⟩
    exact absurd (hletters '.' (by simp)) (by decide)
  refine ⟨ws, w ++ '.' :: extension, hsplit, by simp, ?_, ?_⟩
  · intro hcurrent
    exact hlast (by rw [hcurrent]; rfl)
  · intro hparent
    exact hlast (by rw [hparent]; rfl)

namespace PathScope

section Resolved

variable {scope : PathScope} {root path : String}

theorem resolve_eq_locate
    (hfile : scope.atFile = false)
    (hroot : scope.root = some root)
    (hpath : scope.platform.isAbsolute path = false) :
    scope.resolve path = scope.platform.locate root path := by
  simp [resolve, hfile, hroot, hpath]

/-- Let the linter have run in an anchored workspace root.  A relative path stands for the
anchor of the root followed by where the components of the root and of the path lead from
there.  This is an absolute path whose components are names, it is its own normal form and
stands for itself, and it keeps the last component of every path that stands in a
diagnostic line. -/
theorem resolve_from_root
    (hfile : scope.atFile = false)
    (hroot : scope.root = some root)
    (hanchored : scope.platform.IsAnchored root.toList)
    (hpath : scope.platform.IsRelative path) :
    let p := scope.platform
    let anchor := p.anchor root.toList
    let place := p.place root.toList path.toList
    let resolved := scope.resolve path
    resolved.toList = anchor ++ joinWith p.separator place ∧
    p.isAbsolute resolved = true ∧
    p.componentsBehind (resolved.toList.drop anchor.length) = place ∧
    (∀ w ∈ place, IsName w) ∧
    (∀ (line : String) (f : LineFields), parseLine line = .matched f → f.path = path →
      (p.components resolved.toList).getLast? = (p.components path.toList).getLast?) ∧
    (∀ again : PathScope, again.platform = p → again.resolve resolved = resolved) ∧
    ∀ viewpoint : String, p.locate viewpoint resolved = resolved := by
  intro p anchor place resolved
  have hname : ∀ w ∈ place, IsName w := fun w hw => Platform.isName_of_mem_place hw
  have hfree : ∀ w ∈ place, ∀ c ∈ w, p.isSeparator c = false := fun w hw =>
    Platform.not_isSeparator_of_mem_place hw
  have hresolved : resolved.toList = anchor ++ joinWith p.separator place := by
    rw [show resolved = p.locate root path from resolve_eq_locate hfile
      hroot hpath.notAbsolute]
    exact Platform.locate_of_anchored hanchored hpath
  have habsolute : p.isAbsolute resolved = true := by
    refine Platform.isAbsolute_of_isAnchored ?_
    rw [hresolved]
    exact Platform.isAnchored_append hanchored _
  refine ⟨hresolved, habsolute, ?_, hname, ?_, ?_, ?_⟩
  · rw [hresolved, List.drop_left]
    exact Platform.componentsBehind_joinWith hname hfree
  · rintro line f hparsed rfl
    obtain ⟨_, _, _, _, _, -, hreading⟩ := exists_reading_of_matched hparsed
    obtain ⟨d, -, -, hd⟩ := hreading.path_derived
    obtain ⟨ws, w, hcomponents, hlast⟩ := (hd ▸ d.path_isPath).exists_last_name p
    have hplace : place =
        walk (p.components (p.withoutDrive root.toList) ++ ws) ++ [w] := by
      simp only [place, Platform.place]
      rw [hcomponents, ← List.append_assoc, walk_concat hlast]
    rw [hresolved, Platform.getLast?_components (by simp [hplace]) hfree,
      hplace, hcomponents]
    simp
  · intro again hagain
    have hkeeps : again.Keeps resolved := by
      refine Or.inr (Or.inr ?_)
      rw [hagain]
      exact habsolute
    exact hkeeps.resolve_eq
  · exact Platform.locate_self hanchored hname hfree hresolved

/-- A path that climbs above a drive, with separators of both kinds. -/
theorem resolve_from_root_climbing :
    let scope : PathScope := ⟨false, some "C:/w//x\\", ⟨"win32"⟩⟩
    let path := "..\\./../..\\rtl//a.v"
    let resolved := scope.resolve path
    scope.platform.IsAnchored "C:/w//x\\".toList ∧
    scope.platform.IsRelative path ∧
    resolved.toList = ['C', ':', '\\'] ++ joinWith '\\' ["rtl".toList, "a.v".toList] ∧
    scope.platform.isAbsolute resolved = true ∧
    scope.resolve resolved = resolved := by
  intro scope path resolved
  have hanchored : scope.platform.IsAnchored "C:/w//x\\".toList :=
    .drive (r := "w//x\\".toList) (by decide +kernel) (by decide) (by decide)
  have hpath : scope.platform.IsRelative path :=
    ⟨by decide +kernel, fun _ => by decide +kernel⟩
  have hanchor : scope.platform.anchor "C:/w//x\\".toList = ['C', ':', '\\'] := by
    decide +kernel
  have hplace : scope.platform.place "C:/w//x\\".toList path.toList =
      ["rtl".toList, "a.v".toList] := by
    decide +kernel
  obtain ⟨hresolved, habsolute, -, -, -, hagain, -⟩ :=
    resolve_from_root rfl rfl hanchored hpath
  refine ⟨hanchored, hpath, ?_, habsolute, hagain scope rfl⟩
  rw [hresolved, hanchor, hplace]
  rfl

end Resolved

end PathScope
end HdlLint
