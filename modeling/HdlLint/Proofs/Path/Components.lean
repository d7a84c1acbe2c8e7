import HdlLint.Path.Components
import Mathlib.Tactic

/-!
# Following path components

From an anchor a path is followed component by component: an empty component and the
folder itself lead nowhere, `..` leads one component back as long as there is one, and
every other component is added.  `walk` is where this leads.

* `resolve_anchored`: the components that are left of an anchored path are those of its
  `walk`.
* `isName_of_mem_walk`: only names are left.
* `splitOn_append_separator` and `splitOn_joinWith`: cutting a text at its separators.
-/

namespace HdlLint.Path

/-- One component further on the way from an anchor. -/
def enter (place : List Component) (w : Component) : List Component :=
  if w = [] ∨ w = current then place
  else if w = parent then place.dropLast
  else place ++ [w]

/-- Where components lead from an anchor. -/
def walk (ws : List Component) : List Component :=
  ws.foldl enter []

/-- A component that names something: it is neither empty nor the folder itself nor the
folder above. -/
structure IsName (w : Component) : Prop where
  ne_nil : w ≠ []
  ne_current : w ≠ current
  ne_parent : w ≠ parent

section Walking

variable {place ws : List Component} {w : Component}

theorem isIdle_iff :
    isIdle w = true ↔ w = [] ∨ w = current := by
  simp [isIdle]

theorem enter_of_isName
    (h : IsName w) (place : List Component) :
    enter place w = place ++ [w] := by
  rw [enter, if_neg (not_or.mpr ⟨h.ne_nil, h.ne_current⟩), if_neg h.ne_parent]

theorem isName_enter
    (h : ∀ x ∈ place, IsName x) :
    ∀ x ∈ enter place w, IsName x := by
  intro x hx
  unfold enter at hx
  split at hx
  · exact h x hx
  · rename_i hidle
    split at hx
    · exact h x (List.mem_of_mem_dropLast hx)
    · rename_i hparent
      rcases List.mem_append.mp hx with hx | hx
      · exact h x hx
      · obtain rfl := List.mem_singleton.mp hx
        exact ⟨fun hnil => hidle (Or.inl hnil),
          fun hcurrent => hidle (Or.inr hcurrent), hparent⟩

/-- A stack of names holds the place from its end on. -/
theorem push_reverse
    (h : ∀ x ∈ place, IsName x) (w : Component) :
    push true place.reverse w = (enter place w).reverse := by
  unfold push enter
  by_cases hidle : w = [] ∨ w = current
  · rw [if_pos (isIdle_iff.mpr hidle), if_pos hidle]
  · rw [if_neg (fun h => hidle (isIdle_iff.mp h)), if_neg hidle]
    by_cases hparent : w = parent
    · rw [if_pos (beq_iff_eq.mpr hparent), if_pos hparent]
      induction place using List.reverseRecOn with
      | nil =>
          rfl
      | append_singleton place top _ =>
          have htop : top ≠ parent := (h top (by simp)).ne_parent
          simp [htop]
    · rw [if_neg (fun h => hparent (beq_iff_eq.mp h)), if_neg hparent]
      simp

theorem walk_append_singleton
    (ws : List Component) (w : Component) :
    walk (ws ++ [w]) = enter (walk ws) w := by
  rw [walk, List.foldl_append]
  rfl

theorem isName_of_mem_walk
    (h : w ∈ walk ws) :
    IsName w := by
  induction ws using List.reverseRecOn generalizing w with
  | nil =>
      cases h
  | append_singleton ws v ih =>
      rw [walk_append_singleton] at h
      exact isName_enter (fun _ hx => ih hx) w h

/-- What is left of the components of an anchored path. -/
theorem resolve_anchored
    (ws : List Component) :
    resolve true ws = walk ws := by
  have hstack : ws.foldl (push true) [] = (walk ws).reverse := by
    induction ws using List.reverseRecOn with
    | nil =>
        rfl
    | append_singleton ws w ih =>
        rw [walk_append_singleton, List.foldl_append, ih]
        exact push_reverse (fun _ hx => isName_of_mem_walk hx) w
  rw [resolve, hstack, List.reverse_reverse]

theorem mem_of_mem_enter
    {x : Component}
    (h : x ∈ enter place w) :
    x ∈ place ∨ x = w := by
  unfold enter at h
  split at h
  · exact Or.inl h
  · split at h
    · exact Or.inl (List.mem_of_mem_dropLast h)
    · simpa using h

/-- Every component that is left was on the way. -/
theorem mem_of_mem_walk
    (h : w ∈ walk ws) :
    w ∈ ws := by
  induction ws using List.reverseRecOn generalizing w with
  | nil =>
      cases h
  | append_singleton ws v ih =>
      rw [walk_append_singleton] at h
      rcases mem_of_mem_enter h with hwalk | rfl
      · exact List.mem_append_left _ (ih hwalk)
      · simp

/-- An empty component leads nowhere. -/
theorem walk_append_nil_cons
    (us ws : List Component) :
    walk (us ++ [] :: ws) = walk (us ++ ws) := by
  rw [walk, walk, List.foldl_append, List.foldl_append, List.foldl_cons]
  rfl

theorem walk_concat
    (h : IsName w) (ws : List Component) :
    walk (ws ++ [w]) = walk ws ++ [w] := by
  rw [walk_append_singleton, enter_of_isName h]

/-- Names lead to themselves. -/
theorem walk_of_names
    (h : ∀ w ∈ ws, IsName w) :
    walk ws = ws := by
  induction ws using List.reverseRecOn with
  | nil =>
      rfl
  | append_singleton ws w ih =>
      rw [walk_concat (h w (by simp)), ih fun x hx => h x (List.mem_append_left _ hx)]

end Walking

section Cutting

variable {isSeparator : Char → Bool} {s t : List Char} {c : Char}

theorem splitOn_ne_nil
    (s : List Char) :
    splitOn isSeparator s ≠ [] := by
  fun_cases splitOn isSeparator s <;> simp_all

theorem splitOn_separator
    (h : isSeparator c = true) (s : List Char) :
    splitOn isSeparator (c :: s) = [] :: splitOn isSeparator s := by
  rw [splitOn, if_pos h]

/-- A character that does not separate is put in front of the first component. -/
theorem splitOn_cons
    (h : isSeparator c = false) (s : List Char) :
    ∃ (w : Component) (ws : List Component),
      splitOn isSeparator s = w :: ws ∧
        splitOn isSeparator (c :: s) = (c :: w) :: ws := by
  have hne : splitOn isSeparator s ≠ [] := splitOn_ne_nil s
  obtain ⟨w, ws, hs⟩ := List.exists_cons_of_ne_nil hne
  refine ⟨w, ws, hs, ?_⟩
  rw [splitOn, hs]
  simp [h]

theorem splitOn_append_separator
    (h : isSeparator c = true) (s t : List Char) :
    splitOn isSeparator (s ++ c :: t) =
      splitOn isSeparator s ++ splitOn isSeparator t := by
  induction s with
  | nil =>
      exact splitOn_separator h t
  | cons x s ih =>
      cases hx : isSeparator x with
      | true =>
          rw [List.cons_append, splitOn_separator hx,
            splitOn_separator hx, ih, List.cons_append]
      | false =>
          obtain ⟨w, ws, hs, hcons⟩ := splitOn_cons hx s
          obtain ⟨w', ws', hs', hcons'⟩ := splitOn_cons hx (s ++ c :: t)
          rw [ih, hs, List.cons_append] at hs'
          obtain ⟨rfl, rfl⟩ := List.cons.inj hs'
          rw [List.cons_append, hcons', hcons, List.cons_append]

/-- No component holds a separator. -/
theorem not_isSeparator_of_mem_splitOn
    {w : Component}
    (hw : w ∈ splitOn isSeparator s)
    (hc : c ∈ w) :
    isSeparator c = false := by
  induction s generalizing w with
  | nil =>
      obtain rfl := List.mem_singleton.mp hw
      cases hc
  | cons x s ih =>
      cases hx : isSeparator x with
      | true =>
          rw [splitOn_separator hx] at hw
          rcases List.mem_cons.mp hw with rfl | hw
          · cases hc
          · exact ih hw hc
      | false =>
          obtain ⟨w', ws, hs, hcons⟩ := splitOn_cons hx s
          rw [hcons] at hw
          rw [hs] at ih
          rcases List.mem_cons.mp hw with rfl | hw
          · rcases List.mem_cons.mp hc with rfl | hc
            · exact hx
            · exact ih List.mem_cons_self hc
          · exact ih (List.mem_cons_of_mem w' hw) hc

theorem splitOn_of_free
    {w : Component}
    (h : ∀ c ∈ w, isSeparator c = false) :
    splitOn isSeparator w = [w] := by
  induction w with
  | nil =>
      rfl
  | cons c w ih =>
      obtain ⟨w', ws, hs, hcons⟩ := splitOn_cons (h c List.mem_cons_self) w
      rw [ih fun x hx => h x (List.mem_cons_of_mem c hx)] at hs
      obtain ⟨rfl, rfl⟩ := List.cons.inj hs
      exact hcons

/-- A part without separators belongs to one component. -/
theorem splitOn_append_free
    (h : ∀ c ∈ t, isSeparator c = false) (s : List Char) :
    ∃ (ws : List Component) (w : Component),
      splitOn isSeparator (s ++ t) = ws ++ [w ++ t] := by
  induction s with
  | nil =>
      exact ⟨[], [], splitOn_of_free h⟩
  | cons x s ih =>
      obtain ⟨ws, w, hsplit⟩ := ih
      cases hx : isSeparator x with
      | true =>
          exact ⟨[] :: ws,
            w, by rw [List.cons_append, splitOn_separator hx, hsplit, List.cons_append]⟩
      | false =>
          obtain ⟨w', ws', hs, hcons⟩ := splitOn_cons hx (s ++ t)
          rw [hsplit] at hs
          cases ws with
          | nil =>
              obtain ⟨rfl, rfl⟩ := List.cons.inj hs
              exact ⟨[], x :: w, hcons⟩
          | cons u us =>
              obtain ⟨rfl, rfl⟩ := List.cons.inj hs
              exact ⟨(x :: u) :: us, w, hcons⟩

/-- Every component but the first has a separator in front of it. -/
theorem joinWith_cons
    (c : Char) (w : Component) (ws : List Component) :
    joinWith c (w :: ws) = w ++ ws.flatMap (c :: ·) := by
  induction ws generalizing w with
  | nil =>
      simp [joinWith]
  | cons v ws ih =>
      simp [joinWith, ih]

/-- Components that were put together are cut again. -/
theorem splitOn_joinWith
    {ws : List Component}
    (hc : isSeparator c = true)
    (hne : ws ≠ [])
    (hfree : ∀ w ∈ ws, ∀ x ∈ w, isSeparator x = false) :
    splitOn isSeparator (joinWith c ws) = ws := by
  induction ws with
  | nil =>
      exact absurd rfl hne
  | cons w ws ih =>
      cases ws with
      | nil =>
          exact splitOn_of_free (hfree w List.mem_cons_self)
      | cons u us =>
          rw [joinWith, splitOn_append_separator hc,
            splitOn_of_free (hfree w List.mem_cons_self),
            ih (by simp) fun v hv => hfree v (List.mem_cons_of_mem w hv)]
          · rfl
          · simp

end Cutting

end HdlLint.Path
