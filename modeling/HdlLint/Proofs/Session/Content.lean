import HdlLint.Proofs.Session.RunOutcome
import HdlLint.Proofs.Session.Steps

/-!
# What the store of a session holds

A step shows a set of diagnostics, drops the diagnostics of a file, or leaves the content
of the store as it is. `Session.shown?` says which set a step shows: the one that replaces
the content, the empty one when the store is cleared, or the diagnostics of a run that
ends in this step and is no error.

* `runStep_cases`: what a step on a run does to the store.
* `Calm.current_step` and `Calm.step`: the content after one step, and that a calm session
  stays calm.
* `Calm.after_current`: the content after steps that show nothing.
* `Calm.after_shown`: the content after a step that shows a set and steps that show
  nothing.
-/

namespace HdlLint
namespace Session

open DiagnosticSet

/-- A listener that subscribes is quiet, and a set that is shown was built by adding
diagnostics. -/
def Step.Admissible : Step → Prop
  | change (.replace found) => ∃ ds : List Diagnostic, found = .ofList ds
  | subscribe l => l.Quiet
  | _ => True

/-- Whether a step works on a run. -/
def Step.OnRun : Step → Prop
  | lint _ _ => True
  | start _ _ _ _ _ => True
  | finish _ => True
  | cancel _ => True
  | _ => False

/-- The end of the run that a step brings to its end. -/
def runEnded? (s : Session) : Step → Option RunEnd
  | .lint document child => some (s.lint document child).1
  | .start id document child gated wantsResult =>
    (s.start id document child gated wantsResult).1.runEnd? id
  | .finish id => if (s.runEnd? id).isSome then none else (s.finish id).1.runEnd? id
  | .cancel id => if (s.runEnd? id).isSome then none else (s.cancel id).1.runEnd? id
  | _ => none

/-- The set that a step shows. -/
def shown? (s : Session) : Step → Option DiagnosticSet
  | .change (.replace found) => some found
  | .change .clear => some .empty
  | x => (s.runEnded? x).bind RunEnd.found?

/-- No step of a list shows anything. -/
def ShowsNothing (s : Session) : List Step → Prop
  | [] => True
  | x :: rest => s.shown? x = none ∧ (s.step x).ShowsNothing rest

/-- The files whose diagnostics are dropped by some steps. -/
def closedFiles (steps : List Step) : List String :=
  steps.filterMap Step.closed?

/-- The listeners are quiet and the content is grouped. -/
structure Calm (s : Session) : Prop where
  quiet : s.store.Quiet
  grouped : s.store.current.Grouped

section OneStep

variable {s : Session} {x : Step}

theorem runEnd?_conclude
    (s : Session) (id : String) (document : Document) (wantsResult : Bool) (how : RunEnd)
    (store : DiagnosticStore) (effects : Effects) :
    (s.conclude id document wantsResult how store effects).1.runEnd? id = some how := by
  simp [runEnd?]

/-- A step on a run leaves the store alone and shows nothing, or lets the linter of a run
go on to its end. -/
theorem runStep_cases
    (s : Session)
    (hx : x.OnRun) :
    (s.shown? x = none ∧ (s.step x).store = s.store) ∨
    (∃ (request : LintRequest) (invocation : Invocation) (child : ChildBehavior),
      s.shown? x = (request.complete invocation child s.store).1.found? ∧
      (s.step x).store = (request.complete invocation child s.store).2.1) := by
  cases x with
  | lint document child =>
      simp only [shown?, runEnded?, step, lint, LintRequest.run, Option.bind_some]
      cases hlaunch : (s.request document).launch child with
      | mk progress effects =>
          cases progress with
          | ended how =>
              exact Or.inl ⟨LintRequest.found?_launch _ child hlaunch, rfl⟩
          | running invocation =>
              exact Or.inr ⟨s.request document, invocation, child, rfl, rfl⟩
  | start id document child gated wantsResult =>
      simp only [shown?, runEnded?, step]
      rcases s.start_cases id document child gated wantsResult with
        ⟨how, effects, hlaunch, hstart⟩ | ⟨invocation, effects, -, -, -, hstart⟩ |
        ⟨invocation, effects, ran, -, rfl, hstart⟩
      · rw [hstart, runEnd?_conclude]
        exact Or.inl ⟨LintRequest.found?_launch _ child hlaunch, rfl⟩
      · rw [hstart, runEnd?, run?_setRun_self]
        exact Or.inl ⟨rfl, rfl⟩
      · rw [hstart, runEnd?_conclude]
        exact Or.inr ⟨s.request document, invocation,
          s.released document child gated, rfl, rfl⟩
  | finish id =>
      simp only [shown?, runEnded?, step]
      rcases s.finish_cases id with
        ⟨request, invocation, child, wantsResult, ran, hrun, rfl, hfinish⟩ | ⟨-, hfinish⟩
      · have hwaiting : (s.runEnd? id).isSome = false := by
          simp [runEnd?, hrun]
        rw [hfinish, runEnd?_conclude, hwaiting]
        exact Or.inr ⟨request, invocation, child, rfl, rfl⟩
      · rw [hfinish]
        refine Or.inl ⟨?_, rfl⟩
        cases hend : s.runEnd? id <;> simp
  | cancel id =>
      simp only [shown?, runEnded?, step]
      rcases s.cancel_cases id with
        ⟨⟨request, invocation, child, wantsResult, hrun⟩, hcancel⟩ | ⟨-, hcancel⟩
      · have hwaiting : (s.runEnd? id).isSome = false := by
          simp [runEnd?, hrun]
        rw [hcancel, hwaiting, runEnd?, run?_setRun_self]
        exact Or.inl ⟨rfl, rfl⟩
      · rw [hcancel]
        refine Or.inl ⟨?_, rfl⟩
        cases hend : s.runEnd? id <;> simp
  | _ =>
      exact hx.elim

/-- A step on a run shows a grouped set, and the content is what it shows. -/
theorem Calm.runStep
    (h : s.Calm)
    (hx : x.OnRun) :
    (s.step x).store.Quiet ∧
    (s.step x).store.current = (s.shown? x).getD s.store.current ∧
    ∀ found ∈ s.shown? x, found.Grouped := by
  rcases s.runStep_cases hx with
    ⟨hshown, hstore⟩ | ⟨request, invocation, child, hshown, hstore⟩
  · rw [hshown, hstore]
    exact ⟨h.quiet, rfl, by simp⟩
  · rw [hshown, hstore]
    exact ⟨LintRequest.complete_quiet h.quiet, LintRequest.complete_current h.quiet,
      fun found hfound => LintRequest.grouped_found?_complete h.quiet hfound⟩

theorem closed?_of_onRun
    (hx : x.OnRun) :
    x.closed? = none := by
  cases x with
  | closeDocument document =>
      exact hx.elim
  | change c =>
      exact hx.elim
  | _ =>
      rfl

/-- The content after a step is what the step shows, without the file that it closes. -/
theorem Calm.current_step
    (h : s.Calm) (x : Step) :
    (s.step x).store.current =
      ((s.shown? x).getD s.store.current).dropFiles x.closed?.toList := by
  by_cases hx : x.OnRun
  · rw [closed?_of_onRun hx, (h.runStep hx).2.1]
    exact (dropFiles_nil _).symm
  · cases x with
    | updateSettings settings =>
        simp [step, updateSettings, shown?, runEnded?, Step.closed?]
    | closeDocument document =>
        simp only [step, closeDocument, Session.change, shown?, runEnded?, Step.closed?,
          h.quiet.current_publish, Change.apply, h.grouped.without_eq]
        rfl
    | change c =>
        cases c <;>
          simp [step, Session.change, shown?, runEnded?, Step.closed?,
            h.quiet.current_publish,
            Change.apply, h.grouped.without_eq]
    | subscribe l =>
        simp [step, DiagnosticStore.subscribe, shown?, runEnded?, Step.closed?]
    | unsubscribe name =>
        simp [step, DiagnosticStore.unsubscribe, shown?, runEnded?, Step.closed?]
    | _ =>
        exact (hx trivial).elim

theorem Calm.grouped_shown
    {found : DiagnosticSet}
    (h : s.Calm)
    (hx : x.Admissible)
    (hshown : s.shown? x = some found) :
    found.Grouped := by
  by_cases hrun : x.OnRun
  · exact (h.runStep hrun).2.2 found hshown
  · cases x with
    | change c =>
        cases c with
        | replace shown =>
            obtain ⟨ds, rfl⟩ := hx
            obtain rfl := Option.some.inj hshown
            exact grouped_ofList ds
        | clear =>
            obtain rfl := Option.some.inj hshown
            exact grouped_empty
        | delete path =>
            cases hshown
    | lint document child =>
        exact (hrun trivial).elim
    | start id document child gated wantsResult =>
        exact (hrun trivial).elim
    | finish id =>
        exact (hrun trivial).elim
    | cancel id =>
        exact (hrun trivial).elim
    | _ =>
        cases hshown

theorem Calm.quiet_step
    (h : s.Calm)
    (hx : x.Admissible) :
    (s.step x).store.Quiet := by
  by_cases hrun : x.OnRun
  · exact (h.runStep hrun).1
  · cases x with
    | updateSettings settings =>
        exact h.quiet
    | closeDocument document =>
        exact h.quiet.publish _
    | change c =>
        exact h.quiet.publish c
    | subscribe l =>
        exact h.quiet.subscribe hx
    | unsubscribe name =>
        exact h.quiet.unsubscribe name
    | _ =>
        exact (hrun trivial).elim

theorem Calm.step
    (h : s.Calm)
    (hx : x.Admissible) :
    (s.step x).Calm := by
  refine ⟨h.quiet_step hx, ?_⟩
  rw [h.current_step x]
  refine Grouped.dropFiles ?_ _
  cases hshown : s.shown? x with
  | none =>
      exact h.grouped
  | some found =>
      exact h.grouped_shown hx hshown

theorem closed?_of_shown
    {found : DiagnosticSet}
    (h : s.shown? x = some found) :
    x.closed? = none := by
  cases x with
  | closeDocument document =>
      cases h
  | change c =>
      cases c with
      | delete path =>
          cases h
      | _ =>
          rfl
  | _ =>
      rfl

end OneStep

section Steps

variable {s : Session} {steps : List Step}

theorem Calm.after
    (h : s.Calm)
    (hsteps : ∀ x ∈ steps, x.Admissible) :
    (s.after steps).Calm := by
  induction steps generalizing s with
  | nil =>
      exact h
  | cons x rest ih =>
      exact ih (h.step (hsteps x List.mem_cons_self)) fun y hy =>
        hsteps y (List.mem_cons_of_mem _ hy)

theorem dropFiles_toList
    (content : DiagnosticSet) (file : Option String) (closed : List String) :
    (content.dropFiles file.toList).dropFiles closed =
      content.dropFiles (file.toList ++ closed) := by
  cases file with
  | none =>
      simp
  | some file =>
      exact (dropFiles_cons content file closed).symm

/-- Steps that show nothing only drop the files that they close. -/
theorem Calm.after_current
    (h : s.Calm)
    (hsteps : ∀ x ∈ steps, x.Admissible)
    (hnothing : s.ShowsNothing steps) :
    (s.after steps).store.current = s.store.current.dropFiles (closedFiles steps) := by
  induction steps generalizing s with
  | nil =>
      exact (dropFiles_nil _).symm
  | cons x rest ih =>
      obtain ⟨hshown, hrest⟩ := hnothing
      have hx := hsteps x List.mem_cons_self
      have hnext :
          ((s.step x).after rest).store.current =
            (s.step x).store.current.dropFiles (closedFiles rest) :=
        ih (h.step hx) (fun y hy => hsteps y (List.mem_cons_of_mem _ hy)) hrest
      have hclosed : closedFiles (x :: rest) = x.closed?.toList ++ closedFiles rest := by
        unfold closedFiles
        cases hx' : x.closed? <;> simp [hx']
      have hafter : s.after (x :: rest) = (s.step x).after rest :=
        rfl
      rw [hafter, hnext, h.current_step x, hshown, dropFiles_toList, hclosed]
      rfl

/-- After a step that shows a set, and steps that show nothing, the content is this set
without the files closed since. -/
theorem Calm.after_shown
    {before later : List Step} {x : Step} {found : DiagnosticSet}
    (h : s.Calm)
    (hsteps : ∀ y ∈ before ++ x :: later, y.Admissible)
    (hshown : (s.after before).shown? x = some found)
    (hnothing : (s.after (before ++ [x])).ShowsNothing later) :
    (s.after (before ++ x :: later)).store.current =
      found.dropFiles (closedFiles later) := by
  have hbefore : (s.after before).Calm :=
    h.after fun y hy => hsteps y (List.mem_append_left _ hy)
  have hcurrent : (s.after (before ++ [x])).store.current = found := by
    rw [after_concat, hbefore.current_step x, hshown, closed?_of_shown hshown]
    simp
  have hstep : (s.after (before ++ [x])).Calm := by
    rw [after_concat]
    exact hbefore.step (hsteps x (by simp))
  have hlater := hstep.after_current (fun y hy => hsteps y (by simp [hy])) hnothing
  rw [hcurrent, ← after_append] at hlater
  simpa using hlater

end Steps

end Session
end HdlLint
