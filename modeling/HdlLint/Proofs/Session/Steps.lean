import HdlLint.Session.Basic
import Mathlib.Tactic

/-!
# Steps of a session

A session is used step by step: documents are linted, runs are started in the background,
told to finish or cancelled, the settings change, documents are closed, and the store is
changed and listened to.  `Session.after` is the session after some steps in order.

The lemmas of this module say which runs a step leaves alone and which settings are
current after some steps.
-/

namespace HdlLint
namespace Session

/-- A step of a session. -/
inductive Step where
  | lint (document : Document) (child : ChildBehavior)
  | start (id : String) (document : Document) (child : ChildBehavior)
    (gated wantsResult : Bool)
  | finish (id : String)
  | cancel (id : String)
  | updateSettings (settings : LintSettings)
  | closeDocument (document : Document)
  | change (c : Change)
  | subscribe (l : Listener)
  | unsubscribe (name : String)

namespace Step

/-- The settings that a step makes current. -/
def settings? : Step → Option LintSettings
  | updateSettings settings => some settings
  | _ => none

/-- The file whose diagnostics a step drops. -/
def closed? : Step → Option String
  | closeDocument document => some document.path
  | change (.delete path) => some path
  | _ => none

/-- Whether a step starts a run of this name. -/
def Starts (step : Step) (id : String) : Prop :=
  ∃ (document : Document) (child : ChildBehavior) (gated wantsResult : Bool),
    step = start id document child gated wantsResult

end Step

/-- The session after a step. -/
def step (s : Session) : Step → Session
  | .lint document child => (s.lint document child).2.1
  | .start id document child gated wantsResult =>
      (s.start id document child gated wantsResult).1
  | .finish id => (s.finish id).1
  | .cancel id => (s.cancel id).1
  | .updateSettings settings => (s.updateSettings settings).1
  | .closeDocument document => (s.closeDocument document).2.1
  | .change c => (s.change c).2.1
  | .subscribe l => { s with store := s.store.subscribe l }
  | .unsubscribe name => { s with store := s.store.unsubscribe name }

/-- The session after some steps. -/
def after (s : Session) (steps : List Step) : Session :=
  steps.foldl step s

/-- What the linter of a run does once it goes on.  A time limit that strikes while it is
held back finds it still running. -/
def released (s : Session) (document : Document) (child : ChildBehavior) (gated : Bool) :
    ChildBehavior :=
  if gated && strikesWhileWaiting (s.request document) then .timesOut else child

/-- The settings that are current after some steps: those of the last update. -/
def settingsAfter (s : Session) (steps : List Step) : LintSettings :=
  (steps.filterMap Step.settings?).getLast?.getD s.settings

section Runs

variable {s : Session} {id other : String}

theorem after_append
    (s : Session) (xs ys : List Step) :
    s.after (xs ++ ys) = (s.after xs).after ys :=
  List.foldl_append

theorem after_concat
    (s : Session) (xs : List Step) (x : Step) :
    s.after (xs ++ [x]) = (s.after xs).step x :=
  after_append s xs [x]

theorem lookup_filter_ne
    (h : other ≠ id) (runs : List (String × RunState)) :
    (runs.filter fun r => r.1 ≠ id).lookup other = runs.lookup other := by
  induction runs with
  | nil =>
      rfl
  | cons r rest ih =>
      by_cases hid : r.1 = id
      · have hother : (other == r.1) = false := by
          simp [hid, h]
        rw [List.filter_cons_of_neg (by simp [hid]), List.lookup_cons, hother]
        exact ih
      · rw [List.filter_cons_of_pos (by simp [hid]),
          List.lookup_cons, List.lookup_cons, ih]

@[simp] theorem run?_setRun_self
    (s : Session) (id : String) (state : RunState) :
    (s.setRun id state).run? id = some state := by
  simp [run?, setRun]

theorem run?_setRun_of_ne
    (h : other ≠ id) (s : Session) (state : RunState) :
    (s.setRun id state).run? other = s.run? other := by
  have hne : (other == id) = false := by
    simp [h]
  rw [run?, setRun, List.lookup_cons, hne]
  exact lookup_filter_ne h s.runs

/-- What starting a run does: it ends before its linter is running, it is left waiting, or
it ends at once. -/
theorem start_cases
    (s : Session) (id : String) (document : Document) (child : ChildBehavior)
    (gated wantsResult : Bool) :
    (∃ (how : RunEnd) (effects : Effects),
      (s.request document).launch child = (.ended how, effects) ∧
      s.start id document child gated wantsResult =
        s.conclude id document wantsResult how s.store effects) ∨
    (∃ (invocation : Invocation) (effects : Effects),
      (s.request document).launch child = (.running invocation, effects) ∧
      gated = true ∧ strikesWhileWaiting (s.request document) = false ∧
      s.start id document child gated wantsResult =
        (s.setRun id (.waiting (s.request document) invocation child wantsResult),
          .ofEffects effects)) ∨
    (∃ (invocation : Invocation) (effects : Effects)
      (ran : RunEnd × DiagnosticStore × Effects),
      (s.request document).launch child = (.running invocation, effects) ∧
      ran = (s.request document).complete invocation
        (s.released document child gated) s.store ∧
      s.start id document child gated wantsResult =
        s.conclude id document wantsResult ran.1 ran.2.1 (effects.append ran.2.2)) := by
  unfold start released
  simp only
  cases hlaunch : (s.request document).launch child with
  | mk progress effects =>
      cases progress with
      | ended how =>
          exact Or.inl ⟨how, effects, rfl, rfl⟩
      | running invocation =>
          cases gated with
          | false =>
              exact Or.inr (Or.inr ⟨invocation, effects, _, rfl, rfl, rfl⟩)
          | true =>
              cases hstrikes : strikesWhileWaiting (s.request document) with
              | false =>
                  exact Or.inr (Or.inl ⟨invocation, effects, rfl, rfl, rfl, rfl⟩)
              | true =>
                  exact Or.inr (Or.inr ⟨invocation, effects, _, rfl, rfl, rfl⟩)

/-- What finishing a run does: its linter goes on to its end, or nothing is done. -/
theorem finish_cases
    (s : Session) (id : String) :
    (∃ (request : LintRequest) (invocation : Invocation)
      (child : ChildBehavior) (wantsResult : Bool)
        (ran : RunEnd × DiagnosticStore × Effects),
      s.run? id = some (.waiting request invocation child wantsResult) ∧
      ran = request.complete invocation child s.store ∧
      s.finish id = s.conclude id request.document wantsResult ran.1 ran.2.1 ran.2.2) ∨
    ((∀ request invocation child wantsResult,
        s.run? id ≠ some (.waiting request invocation child wantsResult)) ∧
      s.finish id = (s, {})) := by
  unfold finish
  split
  · rename_i request invocation child wantsResult hrun
    exact Or.inl ⟨request, invocation, child, wantsResult, _, hrun, rfl, rfl⟩
  · rename_i hrun
    exact Or.inr ⟨fun request invocation child wantsResult =>
      hrun request invocation child wantsResult, rfl⟩

/-- What cancelling a run does: it is cancelled, or nothing is done. -/
theorem cancel_cases
    (s : Session) (id : String) :
    ((∃ (request : LintRequest) (invocation : Invocation)
      (child : ChildBehavior) (wantsResult : Bool),
        s.run? id = some (.waiting request invocation child wantsResult)) ∧
      s.cancel id = (s.setRun id (.ended .cancelled), {})) ∨
    ((∀ request invocation child wantsResult,
        s.run? id ≠ some (.waiting request invocation child wantsResult)) ∧
      s.cancel id = (s, {})) := by
  unfold cancel
  split
  · rename_i request invocation child wantsResult hrun
    exact Or.inl ⟨⟨request, invocation, child, wantsResult, hrun⟩, rfl⟩
  · rename_i hrun
    exact Or.inr ⟨fun request invocation child wantsResult =>
      hrun request invocation child wantsResult, rfl⟩

@[simp] theorem run?_conclude
    (s : Session) (id : String) (document : Document) (wantsResult : Bool) (how : RunEnd)
    (store : DiagnosticStore) (effects : Effects) :
    (s.conclude id document wantsResult how store effects).1.run? id =
      some (.ended how) :=
  run?_setRun_self _ id _

/-- A step leaves every run alone but the one it names. -/
theorem run?_start_of_ne
    (h : other ≠ id)
    (document : Document) (child : ChildBehavior) (gated wantsResult : Bool) :
    (s.start id document child gated wantsResult).1.run? other = s.run? other := by
  rcases s.start_cases id document child gated wantsResult with
    ⟨how, effects, -, hstart⟩ | ⟨invocation, effects, -, -, -, hstart⟩ |
    ⟨invocation, effects, ran, -, -, hstart⟩
  all_goals
    rw [hstart]
    exact run?_setRun_of_ne h _ _

theorem run?_finish_of_ne
    (h : other ≠ id) :
    (s.finish id).1.run? other = s.run? other := by
  rcases s.finish_cases id with
    ⟨request, invocation, child, wantsResult, ran, -, -, hfinish⟩ | ⟨-, hfinish⟩
  · rw [hfinish]
    exact run?_setRun_of_ne h _ _
  · rw [hfinish]

theorem run?_cancel_of_ne
    (h : other ≠ id) :
    (s.cancel id).1.run? other = s.run? other := by
  rcases s.cancel_cases id with ⟨-, hcancel⟩ | ⟨-, hcancel⟩
  · rw [hcancel]
    exact run?_setRun_of_ne h _ _
  · rw [hcancel]

end Runs

section Frame

variable {s : Session}

/-- What a step leaves as it is: the workspace, and the settings unless it updates
them. -/
theorem step_frame
    (s : Session) (x : Step) :
    (s.step x).root = s.root ∧
    (s.step x).platform = s.platform ∧
    (s.step x).translator = s.translator ∧
    (s.step x).settings = x.settings?.getD s.settings := by
  cases x with
  | start id document child gated wantsResult =>
      rcases s.start_cases id document child gated wantsResult with
        ⟨how, effects, -, hstart⟩ | ⟨invocation, effects, -, -, -, hstart⟩ |
        ⟨invocation, effects, ran, -, -, hstart⟩
      all_goals
        simp only [step, hstart]
        exact ⟨rfl, rfl, rfl, rfl⟩
  | finish id =>
      rcases s.finish_cases id with
        ⟨request, invocation, child, wantsResult, ran, -, -, hfinish⟩ | ⟨-, hfinish⟩
      all_goals
        have hstep := congrArg Prod.fst hfinish
        rw [step, hstep]
        exact ⟨rfl, rfl, rfl, rfl⟩
  | cancel id =>
      rcases s.cancel_cases id with ⟨-, hcancel⟩ | ⟨-, hcancel⟩
      all_goals
        have hstep := congrArg Prod.fst hcancel
        rw [step, hstep]
        exact ⟨rfl, rfl, rfl, rfl⟩
  | _ =>
      exact ⟨rfl, rfl, rfl, rfl⟩

theorem after_workspace
    (s : Session) (steps : List Step) :
    (s.after steps).root = s.root ∧
    (s.after steps).platform = s.platform ∧
    (s.after steps).translator = s.translator := by
  induction steps generalizing s with
  | nil =>
      exact ⟨rfl, rfl, rfl⟩
  | cons x rest ih =>
      obtain ⟨hroot, hplatform, htranslator, -⟩ := s.step_frame x
      obtain ⟨hroot', hplatform', htranslator'⟩ := ih (s.step x)
      exact ⟨hroot'.trans hroot, hplatform'.trans hplatform,
        htranslator'.trans htranslator⟩

theorem after_settings
    (s : Session) (steps : List Step) :
    (s.after steps).settings = s.settingsAfter steps := by
  induction steps generalizing s with
  | nil =>
      rfl
  | cons x rest ih =>
      have hnext : (s.after (x :: rest)).settings = (s.step x).settingsAfter rest :=
        ih (s.step x)
      rw [hnext]
      unfold settingsAfter
      rw [(s.step_frame x).2.2.2, List.filterMap_cons]
      cases x.settings? with
      | none =>
          rfl
      | some settings =>
          simp [List.getLast?_cons]

end Frame

end Session
end HdlLint
