import HdlLint.Fault.Crash

/-!
# Stages that can fail

A chain of stages fails as the first of them that does, and gives what the last one gives
if none does.

* `exceptBind_ok`, `exceptBind_eq_error_iff`: a chain of two stages.
* `exceptMap_ok`, `exceptMap_eq_error_iff`: a stage whose outcome is changed.
* `foldlM_eq_error_iff`: a loop whose steps fail whatever they start from.
-/

namespace HdlLint

variable {ε α β : Type}

theorem exceptBind_ok
    {x : Except ε α} {f : α → Except ε β} {r : β}
    (h : x >>= f = .ok r) :
    ∃ a : α, x = .ok a ∧ f a = .ok r := by
  cases x with
  | error e =>
      cases h
  | ok a =>
      exact ⟨a, rfl, h⟩

theorem exceptBind_eq_error_iff
    {x : Except ε α} {f : α → Except ε β} {e : ε} :
    x >>= f = .error e ↔ x = .error e ∨ ∃ a : α, x = .ok a ∧ f a = .error e := by
  cases x with
  | error e' =>
      simp [bind, Except.bind]
  | ok a =>
      simp [bind, Except.bind]

theorem exceptMap_ok
    {x : Except ε α} {f : α → β} {r : β}
    (h : x.map f = .ok r) :
    ∃ a : α, x = .ok a ∧ f a = r := by
  cases x with
  | error e =>
      cases h
  | ok a =>
      exact ⟨a, rfl, Except.ok.inj h⟩

theorem exceptMap_eq_error_iff
    {x : Except ε α} {f : α → β} {e : ε} :
    x.map f = .error e ↔ x = .error e := by
  cases x with
  | error e' =>
      simp [Except.map]
  | ok a =>
      simp [Except.map]

/-- A loop whose steps fail whatever they start from fails as the first of them. -/
theorem foldlM_eq_error_iff
    {f : β → α → Except ε β} {fault : α → Option ε}
    (hfault : ∀ (b : β) (x : α) (e : ε), f b x = .error e ↔ fault x = some e)
    {l : List α} {b : β} {e : ε} :
    l.foldlM f b = .error e ↔ l.findSome? fault = some e := by
  induction l generalizing b with
  | nil =>
      exact iff_of_false (by rintro ⟨⟩) (by rintro ⟨⟩)
  | cons x l ih =>
      rw [List.foldlM_cons, exceptBind_eq_error_iff, hfault, List.findSome?_cons]
      cases hx : fault x with
      | some e' =>
          refine or_iff_left ?_
          rintro ⟨a, ha, -⟩
          rw [(hfault b x e').mpr hx] at ha
          cases ha
      | none =>
          obtain ⟨a, ha⟩ : ∃ a : β, f b x = .ok a := by
            cases hf : f b x with
            | ok a =>
                exact ⟨a, rfl⟩
            | error e' =>
                rw [(hfault b x e').mp hf] at hx
                cases hx
          simp [ha, ih]

end HdlLint
