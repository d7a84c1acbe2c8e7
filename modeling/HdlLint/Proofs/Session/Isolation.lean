import HdlLint.Proofs.Session.Content

/-!
# Runs do not disturb each other

A run that is started in the background ends, unless it is cancelled, as it would end
alone under the settings that were current when it was started.  `Bound` says that a run
has this end or is bound for it; starting establishes it and no later step destroys it.

* `bound_start`, `Bound.finish`, `bound_or_cancelled_step`: what one step does.
* `runEnd?_alone`: what all steps do.
* `runEnd?_after_cancel`: a run that is cancelled in time ends so.
-/

namespace HdlLint
namespace Session

/-- A session on the same workspace with other settings, nothing shown, no listeners and
no runs. -/
def fresh (s : Session) (settings : LintSettings) : Session :=
  { s with store := .empty, settings := settings, runs := [] }

/-- How a run ends that is started in the background and told to finish while nothing else
is done. -/
def alone (s : Session) (settings : LintSettings) (id : String) (document : Document)
    (child : ChildBehavior) (gated wantsResult : Bool) : Option RunEnd :=
  ((s.fresh settings).after [.start id document child gated wantsResult,
    .finish id]).runEnd? id

/-- A run is waiting and will have this end, or it has it. -/
def Bound (s : Session) (id : String) (how : RunEnd) : Prop :=
  (∃ (request : LintRequest) (invocation : Invocation)
    (child : ChildBehavior) (wantsResult : Bool),
    s.run? id = some (.waiting request invocation child wantsResult) ∧
    (request.complete invocation child .empty).1 = how) ∨
  s.run? id = some (.ended how)

def Cancelled (s : Session) (id : String) : Prop :=
  s.run? id = some (.ended .cancelled)

/-- How a run ends that is started now. -/
def outcome (s : Session) (document : Document) (child : ChildBehavior) (gated : Bool) :
    RunEnd :=
  match (s.request document).launch child with
  | (.ended how, _) => how
  | (.running invocation, _) =>
    ((s.request document).complete invocation (s.released document child gated) .empty).1

theorem calm_fresh
    (s : Session) (settings : LintSettings) :
    (s.fresh settings).Calm where
  quiet := by
    intro l hl
    cases hl
  grouped := DiagnosticSet.grouped_empty

section OneStep

variable {s : Session} {id other : String} {how : RunEnd}

/-- A run is bound for its outcome from its start on. -/
theorem bound_start
    (h : s.store.Quiet)
    (document : Document) (child : ChildBehavior) (gated wantsResult : Bool) :
    (s.start id document child gated wantsResult).1.Bound id
      (s.outcome document child gated) := by
  rcases s.start_cases id document child gated wantsResult with
    ⟨how, effects, hlaunch, hstart⟩ | ⟨invocation, effects, hlaunch,
      hgated, hstrikes, hstart⟩ |
    ⟨invocation, effects, ran, hlaunch, rfl, hstart⟩
  · refine Or.inr ?_
    rw [hstart, run?_conclude, outcome, hlaunch]
  · refine Or.inl ⟨s.request document, invocation, child, wantsResult, ?_, ?_⟩
    · rw [hstart, run?_setRun_self]
    · rw [outcome, hlaunch, released, hgated, hstrikes]
      rfl
  · refine Or.inr ?_
    rw [hstart, run?_conclude, outcome, hlaunch, LintRequest.complete_end_eq h]

/-- Finishing a run brings it to the end it is bound for. -/
theorem Bound.finish
    (hbound : s.Bound id how)
    (h : s.store.Quiet) :
    (s.finish id).1.run? id = some (.ended how) := by
  unfold Session.finish
  rcases hbound with ⟨request, invocation, child, wantsResult, hrun, hend⟩ | hrun
  · rw [hrun]
    simp [run?_conclude, LintRequest.complete_end_eq h, hend]
  · rw [hrun]
    exact hrun

/-- Cancelling a run cancels it, or comes too late. -/
theorem Bound.cancel
    (hbound : s.Bound id how) :
    (s.cancel id).1.Bound id how ∨ (s.cancel id).1.Cancelled id := by
  unfold Session.cancel
  rcases hbound with ⟨request, invocation, child, wantsResult, hrun, -⟩ | hrun
  · rw [hrun]
    exact Or.inr (by simp [Cancelled])
  · rw [hrun]
    exact Or.inl (Or.inr hrun)

/-- A step that does not start a run finishes it, cancels it, or leaves it as it is. -/
theorem run?_step_cases
    {x : Step}
    (hstart : ¬ x.Starts id) :
    x = .finish id ∨ x = .cancel id ∨
      (x ≠ .finish id ∧ (s.step x).run? id = s.run? id) := by
  cases x with
  | start other document child gated wantsResult =>
      have hother : id ≠ other := by
        rintro rfl
        exact hstart ⟨document, child, gated, wantsResult, rfl⟩
      exact Or.inr (Or.inr
        ⟨by simp, run?_start_of_ne hother document child gated wantsResult⟩)
  | finish other =>
      by_cases hother : other = id
      · exact Or.inl (congrArg Step.finish hother)
      · exact Or.inr (Or.inr ⟨by simpa using hother, run?_finish_of_ne (Ne.symm hother)⟩)
  | cancel other =>
      by_cases hother : other = id
      · exact Or.inr (Or.inl (congrArg Step.cancel hother))
      · exact Or.inr (Or.inr ⟨by simp, run?_cancel_of_ne (Ne.symm hother)⟩)
  | _ =>
      exact Or.inr (Or.inr ⟨by simp, rfl⟩)

theorem runEnd?_eq_some_iff :
    s.runEnd? id = some how ↔ s.run? id = some (.ended how) := by
  unfold runEnd?
  split
  · rename_i how' hrun
    simp [hrun]
  · rename_i hrun
    exact iff_of_false (by rintro ⟨⟩) (hrun how)

/-- A run that has ended stays as it is until it is started anew. -/
theorem run?_step_of_ended
    {x : Step}
    (h : s.run? id = some (.ended how))
    (hstart : ¬ x.Starts id) :
    (s.step x).run? id = some (.ended how) := by
  rcases run?_step_cases hstart with rfl | rfl | ⟨-, hrun⟩
  · rw [step, Session.finish, h]
    exact h
  · rw [step, Session.cancel, h]
    exact h
  · rw [hrun]
    exact h

theorem run?_after_of_ended
    {later : List Step}
    (h : s.run? id = some (.ended how))
    (hlater : ∀ x ∈ later, ¬ x.Starts id) :
    (s.after later).run? id = some (.ended how) := by
  induction later using List.reverseRecOn with
  | nil => exact h
  | append_singleton later x ih =>
      rw [after_concat]
      exact run?_step_of_ended (ih fun y hy => hlater y (List.mem_append_left _ hy))
        (hlater x (List.mem_append_right _ (List.mem_singleton.mpr rfl)))

/-- A run that has not ended when it is cancelled has no other end, whatever is done after
that. -/
theorem runEnd?_after_cancel
    {later : List Step}
    (hbegun : s.run? id ≠ none)
    (hopen : s.runEnd? id = none)
    (hlater : ∀ x ∈ later, ¬ x.Starts id) :
    (s.after (.cancel id :: later)).runEnd? id = some .cancelled := by
  have hcancelled : (s.step (.cancel id)).run? id = some (.ended .cancelled) := by
    rcases s.cancel_cases id with ⟨-, hcancel⟩ | ⟨hover, -⟩
    · rw [step, hcancel, run?_setRun_self]
    · cases hrun : s.run? id with
      | none => exact absurd hrun hbegun
      | some state =>
          cases state with
          | waiting request invocation child wantsResult =>
              exact absurd hrun (hover request invocation child wantsResult)
          | ended how =>
              rw [runEnd?, hrun] at hopen
              cases hopen
  have hafter : s.after (.cancel id :: later) = (s.step (.cancel id)).after later := rfl
  rw [hafter, runEnd?_eq_some_iff]
  exact run?_after_of_ended hcancelled hlater

/-- No step but a new start under its name changes the end for which a run is bound,
unless it cancels the run. -/
theorem bound_or_cancelled_step
    {x : Step}
    (hbound : s.Bound id how ∨ s.Cancelled id)
    (h : s.store.Quiet)
    (hstart : ¬ x.Starts id) :
    (s.step x).Bound id how ∨ (s.step x).Cancelled id := by
  rcases hbound with hbound | hcancelled
  · rcases run?_step_cases (s := s) hstart with rfl | rfl | ⟨-, hrun⟩
    · exact Or.inl (Or.inr (hbound.finish h))
    · exact hbound.cancel
    · unfold Bound
      rw [hrun]
      exact Or.inl hbound
  · exact Or.inr (run?_step_of_ended hcancelled hstart)

/-- Only a start of its name begins a run. -/
theorem run?_ne_none_of_step
    {x : Step}
    (h : (s.step x).run? id ≠ none)
    (hstart : ¬ x.Starts id) :
    s.run? id ≠ none := by
  intro hnone
  apply h
  rcases run?_step_cases (s := s) hstart with rfl | rfl | ⟨-, hrun⟩
  · simp [Session.step, Session.finish, hnone]
  · simp [Session.step, Session.cancel, hnone]
  · rw [hrun]
    exact hnone

end OneStep

section Alone

variable {s : Session} {id : String} {how : RunEnd}

theorem outcome_congr
    {t : Session} {document : Document}
    (h : s.request document = t.request document)
    (child : ChildBehavior) (gated : Bool) :
    s.outcome document child gated = t.outcome document child gated := by
  unfold outcome released
  rw [h]

/-- After some steps a document is linted as in a fresh session with the settings that are
current then. -/
theorem request_after
    (s : Session) (before : List Step) (document : Document) :
    (s.after before).request document =
      (s.fresh (s.settingsAfter before)).request document := by
  obtain ⟨hroot, hplatform, htranslator⟩ := s.after_workspace before
  unfold request
  rw [hroot, hplatform, htranslator, s.after_settings before]
  rfl

/-- A run has alone the end that it is bound for when it is started after some steps. -/
theorem alone_after
    (s : Session) (before : List Step) (id : String) (document : Document)
    (child : ChildBehavior)
    (gated wantsResult : Bool) :
    s.alone (s.settingsAfter before) id document child gated wantsResult =
      some ((s.after before).outcome document child gated) := by
  let t := ((s.fresh (s.settingsAfter before)).start id document
    child gated wantsResult).1
  have hbound : t.Bound id ((s.after before).outcome document child gated) := by
    rw [outcome_congr (s.request_after before document)]
    exact bound_start (calm_fresh s _).quiet document child gated wantsResult
  have hquiet : t.store.Quiet :=
    (calm_fresh s _).quiet_step (x := .start id document child gated wantsResult) trivial
  have hrun := hbound.finish hquiet
  unfold alone runEnd?
  have hafter :
      (s.fresh (s.settingsAfter before)).after
          [.start id document child gated wantsResult, .finish id] = (t.finish id).1 :=
    rfl
  rw [hafter, hrun]

/-- A run that is known was started, and has or will have the end that it was bound for
then, unless it was cancelled. -/
theorem bound_of_run?
    {steps : List Step}
    (h : s.Calm)
    (hnew : s.run? id = none)
    (hsteps : ∀ x ∈ steps, x.Admissible)
    (hrun : (s.after steps).run? id ≠ none) :
    ∃ (before later : List Step) (document : Document) (child : ChildBehavior)
      (gated wantsResult : Bool),
      steps = before ++ .start id document child gated wantsResult :: later ∧
      (∀ x ∈ later, ¬ x.Starts id) ∧
      ((s.after steps).Bound id ((s.after before).outcome document child gated) ∨
        (s.after steps).Cancelled id) := by
  induction steps using List.reverseRecOn with
  | nil =>
      exact absurd hnew hrun
  | append_singleton steps x ih =>
      have hbefore : ∀ y ∈ steps, y.Admissible :=
        fun y hy => hsteps y (List.mem_append_left _ hy)
      have hquiet : (s.after steps).store.Quiet := (h.after hbefore).quiet
      rw [after_concat] at hrun ⊢
      -- either this step starts the run anew, or the run was known before it
      by_cases hstart : x.Starts id
      · obtain ⟨document, child, gated, wantsResult, rfl⟩ := hstart
        refine ⟨steps, [], document, child, gated, wantsResult, rfl, by simp, Or.inl ?_⟩
        exact bound_start hquiet document child gated wantsResult
      · obtain ⟨before, later, document, child, gated, wantsResult,
          rfl, hlater, hbound⟩ :=
          ih hbefore (run?_ne_none_of_step hrun hstart)
        refine ⟨before, later ++ [x], document, child, gated,
          wantsResult, by simp, ?_, ?_⟩
        · intro y hy
          rcases List.mem_append.mp hy with hold | hnew
          · exact hlater y hold
          · obtain rfl := List.mem_singleton.mp hnew
            exact hstart
        · exact bound_or_cancelled_step hbound hquiet hstart

/-- A run that has ended and was not cancelled ended as it would have alone, under the
settings that were current when it was started. -/
theorem runEnd?_alone
    {steps : List Step}
    (h : s.Calm)
    (hnew : s.run? id = none)
    (hsteps : ∀ x ∈ steps, x.Admissible)
    (hend : (s.after steps).runEnd? id = some how)
    (huncancelled : how ≠ .cancelled) :
    ∃ (before later : List Step) (document : Document) (child : ChildBehavior)
      (gated wantsResult : Bool),
      steps = before ++ .start id document child gated wantsResult :: later ∧
      (∀ x ∈ later, ¬ x.Starts id) ∧
      s.alone (s.settingsAfter before) id document child gated wantsResult =
        some how := by
  -- a run that has ended is bound for no other end than the one it has
  have hstate : (s.after steps).run? id = some (.ended how) :=
    runEnd?_eq_some_iff.mp hend
  have hrun : (s.after steps).run? id ≠ none := by
    rw [hstate]
    simp
  obtain ⟨before, later, document, child, gated, wantsResult, hsplit, hlater, hbound⟩ :=
    bound_of_run? h hnew hsteps hrun
  refine ⟨before, later, document, child, gated, wantsResult, hsplit, hlater, ?_⟩
  rw [alone_after]
  rcases hbound with
    (⟨request, invocation, child', wantsResult', hwaiting, -⟩ | hended) | hcancelled
  · rw [hstate] at hwaiting
    cases hwaiting
  · rw [hstate] at hended
    cases hended
    rfl
  · rw [Cancelled, hstate] at hcancelled
    cases hcancelled
    exact absurd rfl huncancelled

/-- A document that is linted at once gets the result that it gets alone, under the
current settings. -/
theorem lint_alone
    {before : List Step}
    (h : s.Calm)
    (hsteps : ∀ x ∈ before, x.Admissible)
    (document : Document) (child : ChildBehavior) :
    ((s.after before).lint document child).1 =
      ((s.fresh (s.settingsAfter before)).lint document child).1 := by
  unfold lint
  rw [request_after]
  exact LintRequest.run_end_eq (h.after hsteps).quiet

end Alone

end Session
end HdlLint
