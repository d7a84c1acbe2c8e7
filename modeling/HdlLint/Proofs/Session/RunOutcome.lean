import HdlLint.Proofs.Diagnostic.GroupedSet
import HdlLint.Proofs.Store.QuietListeners
import HdlLint.Session.Run

/-!
# Outcomes of runs and the store

The store has no influence on how a run ends as long as its listeners are quiet, and a run
has no influence on the store but through the diagnostics of its result.

* `RunEnd.found?`: the diagnostics that the end of a run shows.
* `LintRequest.complete_end_eq`: the end of a run is the one that it has with an empty
  store.
* `LintRequest.complete_current`: the content of the store after a run.
-/

namespace HdlLint

/-- The diagnostics that the end of a run shows: those of its result, unless the result is
an error. -/
def RunEnd.found? : RunEnd → Option DiagnosticSet
  | finished result => if result.status = .error then none else some result.diagnostics
  | crashed _ => none
  | cancelled => none

namespace LintRequest

variable (r : LintRequest) (invocation : Invocation) (child : ChildBehavior)

theorem found?_stopped
    (invocation : Option Invocation) (stop : Stop) :
    (stopped invocation stop).1.found? = none := by
  cases stop <;> rfl

/-- A run that ends before its linter is running shows nothing. -/
theorem found?_launch
    {how : RunEnd} {effects : Effects}
    (h : r.launch child = (.ended how, effects)) :
    how.found? = none := by
  unfold launch at h
  simp only at h
  split at h
  · rename_i stop hbuild
    cases h
    exact found?_stopped none stop
  · split at h
    · rename_i stop hlaunch
      cases h
      exact found?_stopped _ stop
    · cases h

section Store

variable {r invocation child} {store : DiagnosticStore}

/-- The result that the output of the linter stands for. -/
def collected (r : LintRequest) (invocation : Invocation) (output : LinterOutput) :
    LintResult where
  status :=
    if (Transcript.read r.scope output.errors).1.isNonempty then .dirty else .clean
  diagnostics := (Transcript.read r.scope output.errors).1
  invocation := some invocation
  code := some output.code

theorem collect_end
    (h : store.Quiet) (output : LinterOutput) :
    (r.collect invocation output store).1 =
      .finished (r.collected invocation output) := by
  simp [collect, h.crash_publish, collected]

theorem collect_store
    (h : store.Quiet) (output : LinterOutput) :
    (r.collect invocation output store).2.1 =
      (store.publish (.replace (Transcript.read r.scope output.errors).1)).store := by
  simp [collect, h.crash_publish]

theorem found?_collected
    (output : LinterOutput) :
    (RunEnd.finished (r.collected invocation output)).found? =
      some (Transcript.read r.scope output.errors).1 := by
  have hstatus : (r.collected invocation output).status ≠ .error := by
    unfold collected
    split <;> simp
  rw [RunEnd.found?, if_neg hstatus]
  rfl

/-- With quiet listeners the end of a run does not depend on the store. -/
theorem complete_end_eq
    (h : store.Quiet) :
    (r.complete invocation child store).1 = (r.complete invocation child .empty).1 := by
  have hempty : DiagnosticStore.empty.Quiet := by
    intro l hl
    cases hl
  unfold complete
  cases hawait : LinterRun.await invocation r.limit child with
  | mk awaited trace =>
      cases awaited with
      | error stop =>
          rfl
      | ok output =>
          simp only [collect_end h, collect_end hempty]

/-- A run shows its diagnostics, or leaves the content of the store as it is. -/
theorem complete_current
    (h : store.Quiet) :
    (r.complete invocation child store).2.1.current =
      (r.complete invocation child store).1.found?.getD store.current := by
  unfold complete
  cases hawait : LinterRun.await invocation r.limit child with
  | mk awaited trace =>
      cases awaited with
      | error stop =>
          simp [found?_stopped]
      | ok output =>
          simp only [collect_end h, collect_store h, found?_collected, h.current_publish]
          rfl

theorem complete_quiet
    (h : store.Quiet) :
    (r.complete invocation child store).2.1.Quiet := by
  unfold complete
  cases hawait : LinterRun.await invocation r.limit child with
  | mk awaited trace =>
      cases awaited with
      | error stop =>
          exact h
      | ok output =>
          simp only [collect_store h]
          exact h.publish _

theorem grouped_found?_complete
    {found : DiagnosticSet}
    (h : store.Quiet)
    (hfound : (r.complete invocation child store).1.found? = some found) :
    found.Grouped := by
  unfold complete at hfound
  cases hawait : LinterRun.await invocation r.limit child with
  | mk awaited trace =>
      rw [hawait] at hfound
      cases awaited with
      | error stop =>
          simp [found?_stopped] at hfound
      | ok output =>
          simp only [collect_end h, found?_collected, Option.some.injEq] at hfound
          subst hfound
          exact DiagnosticSet.grouped_ofList _

/-- A whole run ends as it does with an empty store. -/
theorem run_end_eq
    (h : store.Quiet) :
    (r.run child store).1 = (r.run child .empty).1 := by
  unfold run
  cases hlaunch : r.launch child with
  | mk progress effects =>
      cases progress with
      | ended how =>
          rfl
      | running invocation =>
          exact complete_end_eq h

end Store
end LintRequest
end HdlLint
