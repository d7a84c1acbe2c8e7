import HdlLint.Proofs.Path.AnchoredPaths

/-!
# Tidy absolute paths

An absolute path is tidy if it is one slash or two, followed by its parts with a slash
between neighbours.  Tidying gives a path of this form and leaves one as it is.

* `Posix.parts_join`: the parts that a tidy path was put together from are found again.
* `Posix.isTidy_tidy` and `Posix.IsTidy.tidy_eq`: tidying an absolute path, once and
  again.
-/

namespace HdlLint.Path

/-- A component that stays when a path is tidied. -/
structure IsPart (w : Component) : Prop where
  ne_nil : w ≠ []
  ne_current : w ≠ current
  no_slash : '/' ∉ w

namespace Posix

/-- An absolute path in its normal form. -/
def IsTidy (s : List Char) : Prop :=
  ∃ (slashes : List Char) (ws : List Component),
    (slashes = ['/'] ∨ slashes = ['/', '/']) ∧ (∀ w ∈ ws, IsPart w) ∧
      s = slashes ++ joinWith '/' ws

section Tidy

variable {s slashes : List Char} {w : Component} {ws : List Component}

theorem isPart_of_mem_parts
    (h : w ∈ parts s) :
    IsPart w := by
  obtain ⟨hmem, hidle⟩ := List.mem_filter.mp h
  have hbusy : ¬ (w = [] ∨ w = current) := by
    rw [← isIdle_iff]
    simpa using hidle
  refine ⟨fun hnil => hbusy (Or.inl hnil), fun hcurrent => hbusy (Or.inr hcurrent),
    fun hslash => ?_⟩
  cases not_isSeparator_of_mem_splitOn hmem hslash

/-- Parts alone are no absolute path. -/
theorem isAbsolute_joinWith
    (h : ∀ w ∈ ws, IsPart w) :
    isAbsolute (joinWith '/' ws) = false := by
  cases ws with
  | nil =>
      rfl
  | cons w ws =>
      have hw := h w List.mem_cons_self
      obtain ⟨c, r, rfl⟩ := List.exists_cons_of_ne_nil hw.ne_nil
      have hc : c ≠ '/' := by
        rintro rfl
        exact hw.no_slash List.mem_cons_self
      simp [joinWith_cons, isAbsolute, hc]

theorem anchor_of_isAbsolute
    (h : isAbsolute s = true) :
    anchor s = ['/'] ∨ anchor s = ['/', '/'] := by
  rw [anchor_eq h]
  split
  · exact Or.inr rfl
  · exact Or.inl rfl

theorem anchor_of_relative
    (h : isAbsolute s = false) :
    anchor s = [] := by
  cases s with
  | nil =>
      rfl
  | cons c r =>
      have hc : c ≠ '/' := by simpa [isAbsolute] using h
      simp [anchor, hc]

theorem anchor_join
    (hslashes : slashes = ['/'] ∨ slashes = ['/', '/'])
    (h : ∀ w ∈ ws, IsPart w) :
    anchor (slashes ++ joinWith '/' ws) = slashes := by
  have habsolute : isAbsolute slashes = true := by
    rcases hslashes with rfl | rfl <;> rfl
  rw [anchor_append habsolute (Or.inl (isAbsolute_joinWith h))]
  rcases hslashes with rfl | rfl <;> rfl

/-- The parts of a path are found again. -/
theorem parts_join
    (hslashes : slashes = ['/'] ∨ slashes = ['/', '/'])
    (h : ∀ w ∈ ws, IsPart w) :
    parts (slashes ++ joinWith '/' ws) = ws := by
  have hbusy : ws.filter (fun w => !isIdle w) = ws := by
    refine List.filter_eq_self.mpr fun w hw => ?_
    have hidle : ¬ isIdle w = true := by
      rw [isIdle_iff, not_or]
      exact ⟨(h w hw).ne_nil, (h w hw).ne_current⟩
    simpa using hidle
  have hcut : parts (joinWith '/' ws) = ws := by
    cases ws with
    | nil =>
        rfl
    | cons w ws =>
        rw [parts, splitOn_joinWith rfl (by simp), hbusy]
        intro v hv x hx
        have hslash : x ≠ '/' := by
          rintro rfl
          exact (h v hv).no_slash hx
        simpa [isSeparator] using hslash
  have hskip : ∀ t : List Char, parts ('/' :: t) = parts t := fun t => by
    rw [parts, splitOn_separator rfl]
    rfl
  rcases hslashes with rfl | rfl
  · exact (hskip _).trans hcut
  · exact (hskip _).trans ((hskip _).trans hcut)

/-- A tidy path is left as it is. -/
theorem IsTidy.tidy_eq
    (h : IsTidy s) :
    tidy s = s := by
  obtain ⟨slashes, ws, hslashes, hws, rfl⟩ := h
  have hne : (slashes ++ joinWith '/' ws).isEmpty = false := by
    rcases hslashes with rfl | rfl <;> rfl
  simp only [tidy, anchor_join hslashes hws, parts_join hslashes hws, hne,
    Bool.false_eq_true, if_false]

theorem IsTidy.isAbsolute
    (h : IsTidy s) :
    Posix.isAbsolute s = true := by
  obtain ⟨slashes, ws, hslashes, -, rfl⟩ := h
  rcases hslashes with rfl | rfl <;> rfl

theorem isTidy_tidy
    (h : Posix.isAbsolute s = true) :
    IsTidy (tidy s) := by
  have hanchor := anchor_of_isAbsolute h
  refine ⟨anchor s, parts s, hanchor, fun w hw => isPart_of_mem_parts hw, ?_⟩
  have hne : (anchor s ++ joinWith '/' (parts s)).isEmpty = false := by
    rcases hanchor with hanchor | hanchor <;> rw [hanchor] <;> rfl
  simp only [tidy, hne, Bool.false_eq_true, if_false]

/-- Tidying makes no path absolute. -/
theorem isAbsolute_of_isAbsolute_tidy
    (h : Posix.isAbsolute (tidy s) = true) :
    Posix.isAbsolute s = true := by
  by_contra hrelative
  rw [Bool.not_eq_true] at hrelative
  have hparts := isAbsolute_joinWith fun w hw => isPart_of_mem_parts (s := s) hw
  unfold tidy at h
  rw [anchor_of_relative hrelative, List.nil_append] at h
  dsimp only at h
  split at h
  · cases h
  · rw [hparts] at h
    cases h

end Tidy

end Posix

end HdlLint.Path
