import HdlLint.Proofs.Session.Isolation

/-!
# Results given to waiting callers

Whoever starts a run in the background may wait for its result.  The result is given in
the step in which the run ends by itself, and in no other.

`Standing` relates a run to the results given for it so far: none while it waits or when
it was cancelled, and exactly the one that its end stands for once it has ended by itself.
Starting a run establishes it, and every later step keeps it.

* `standing_start` and `Standing.step`: what one step does.
* `result_given_once`: all steps after the start.
-/

namespace HdlLint

def RunEnd.crash? : RunEnd → Option Crash
  | crashed crash => some crash
  | _ => none

theorem RunEnd.eq_crashed
    {how : RunEnd} {crash : Crash}
    (h : how.crash? = some crash) :
    how = .crashed crash := by
  cases how with
  | crashed crash' =>
      exact congrArg crashed (Option.some.inj h)
  | _ =>
      cases h

namespace Session

def stepEffects (s : Session) : Step → StepEffects
  | .lint document child => (s.lint document child).2.2
  | .start id document child gated wantsResult =>
      (s.start id document child gated wantsResult).2
  | .finish id => (s.finish id).2
  | .cancel id => (s.cancel id).2
  | .updateSettings settings => (s.updateSettings settings).2
  | .closeDocument document => (s.closeDocument document).2.2
  | .change c => (s.change c).2.2
  | .subscribe _ => {}
  | .unsubscribe _ => {}

/-- The results given in some steps, in order. -/
def deliveries (s : Session) : List Step → List Delivery
  | [] => []
  | x :: rest => (s.stepEffects x).deliveries ++ (s.step x).deliveries rest

/-- The results given to the caller that waits for a run, in order. -/
def resultsFor (s : Session) (id : String) (steps : List Step) : List LintResult :=
  ((s.deliveries steps).filter fun d => d.run = id).map (·.result)

/-- What a run that is started now returns if its linter's output is published in the
given store. -/
def returned (s : Session) (document : Document) (child : ChildBehavior) (gated : Bool)
    (store : DiagnosticStore) : RunEnd :=
  match (s.request document).launch child with
  | (.ended how, _) => how
  | (.running invocation, _) =>
    ((s.request document).complete invocation (s.released document child gated) store).1

/-- How far a run has come that returns this on a store, and the results given for it so
far. -/
inductive Standing (s : Session) (id : String) (returns : DiagnosticStore → RunEnd) :
    List LintResult → Prop
  | waiting
      {request : LintRequest} {invocation : Invocation} {child : ChildBehavior}
      (hrun : s.run? id = some (.waiting request invocation child true))
      (hreturns : ∀ store, (request.complete invocation child store).1 = returns store) :
      Standing s id returns []
  | cancelled
      (hrun : s.run? id = some (.ended .cancelled)) :
      Standing s id returns []
  | ended
      (store : DiagnosticStore)
      (hrun : s.run? id = some (.ended (returns store))) :
      Standing s id returns (returns store).delivered?.toList

section Deliveries

variable {s : Session} {id : String}

theorem deliveries_append
    (s : Session) (xs ys : List Step) :
    s.deliveries (xs ++ ys) = s.deliveries xs ++ (s.after xs).deliveries ys := by
  induction xs generalizing s with
  | nil =>
      rfl
  | cons x rest ih =>
      rw [List.cons_append, deliveries, deliveries, ih (s.step x), List.append_assoc]
      rfl

theorem resultsFor_append
    (s : Session) (id : String) (xs ys : List Step) :
    s.resultsFor id (xs ++ ys) = s.resultsFor id xs ++ (s.after xs).resultsFor id ys := by
  simp [resultsFor, deliveries_append]

theorem resultsFor_singleton
    (s : Session) (id : String) (x : Step) :
    s.resultsFor id [x] =
      ((s.stepEffects x).deliveries.filter fun d => d.run = id).map (·.result) := by
  simp [resultsFor, deliveries]

theorem deliveries_conclude
    (s : Session) (id : String) (document : Document) (wantsResult : Bool) (how : RunEnd)
    (store : DiagnosticStore) (effects : Effects) :
    (s.conclude id document wantsResult how store effects).2.deliveries =
      if wantsResult then how.delivered?.toList.map (⟨id, ·⟩) else [] := by
  cases hdelivered : how.delivered? with
  | none =>
      simp [conclude, StepEffects.append, StepEffects.ofEffects, settle, hdelivered]
  | some result =>
      simp [conclude, StepEffects.append, StepEffects.ofEffects, settle, hdelivered]

theorem mem_deliveries_conclude
    {other : String} {document : Document} {wantsResult : Bool} {how : RunEnd}
    {store : DiagnosticStore} {effects : Effects} {d : Delivery}
    (hd : d ∈ (s.conclude other document wantsResult how store effects).2.deliveries) :
    d.run = other ∧ how.delivered? = some d.result := by
  rw [deliveries_conclude] at hd
  split at hd
  · obtain ⟨result, hresult, rfl⟩ := List.mem_map.mp hd
    exact ⟨rfl, Option.mem_toList.mp hresult⟩
  · cases hd

/-- A result is given where a run ends: the step starts the run or lets it go on, and
gives what its end stands for. -/
theorem delivery_cases
    {x : Step} {d : Delivery}
    (hd : d ∈ (s.stepEffects x).deliveries) :
    (x.Starts d.run ∨ x = .finish d.run) ∧
    ∃ how : RunEnd, (s.step x).run? d.run = some (.ended how) ∧
      how.delivered? = some d.result := by
  cases x with
  | start id document child gated wantsResult =>
      simp only [stepEffects] at hd
      simp only [step]
      rcases s.start_cases id document child gated wantsResult with
        ⟨how, effects, -, hstart⟩ | ⟨invocation, effects, -, -, -, hstart⟩ |
        ⟨invocation, effects, ran, -, -, hstart⟩
      · rw [hstart] at hd ⊢
        obtain ⟨rfl, hresult⟩ := mem_deliveries_conclude hd
        exact ⟨Or.inl ⟨document, child, gated, wantsResult, rfl⟩, how,
          run?_conclude .., hresult⟩
      · rw [hstart] at hd
        cases hd
      · rw [hstart] at hd ⊢
        obtain ⟨rfl, hresult⟩ := mem_deliveries_conclude hd
        exact ⟨Or.inl ⟨document, child, gated, wantsResult, rfl⟩, ran.1,
          run?_conclude .., hresult⟩
  | finish id =>
      simp only [stepEffects] at hd
      simp only [step]
      rcases s.finish_cases id with
        ⟨request, invocation, child, wantsResult, ran, -, -, hfinish⟩ | ⟨-, hfinish⟩
      · rw [hfinish] at hd ⊢
        obtain ⟨rfl, hresult⟩ := mem_deliveries_conclude hd
        exact ⟨Or.inr rfl, ran.1, run?_conclude .., hresult⟩
      · rw [hfinish] at hd
        cases hd
  | cancel id =>
      simp only [stepEffects] at hd
      rcases s.cancel_cases id with ⟨-, hcancel⟩ | ⟨-, hcancel⟩
      all_goals
        rw [hcancel] at hd
        cases hd
  | _ =>
      cases hd

/-- A step that neither starts a run nor lets it go on gives no result for it. -/
theorem resultsFor_eq_nil
    {x : Step}
    (hstart : ¬ x.Starts id)
    (hfinish : x ≠ .finish id) :
    s.resultsFor id [x] = [] := by
  rw [resultsFor_singleton, List.map_eq_nil_iff, List.filter_eq_nil_iff]
  intro d hd hrun
  obtain rfl : d.run = id := of_decide_eq_true hrun
  rcases (delivery_cases hd).1 with hstarts | heq
  · exact hstart hstarts
  · exact hfinish heq

theorem resultsFor_conclude
    {x : Step} {document : Document} {wantsResult : Bool} {how : RunEnd}
    {store : DiagnosticStore} {effects : Effects}
    (hx : s.stepEffects x = (s.conclude id document wantsResult how store effects).2) :
    s.resultsFor id [x] = if wantsResult then how.delivered?.toList else [] := by
  rw [resultsFor_singleton, hx, deliveries_conclude]
  cases wantsResult with
  | false =>
      rfl
  | true =>
      cases how.delivered? <;> simp

end Deliveries

section Standing

variable {s : Session} {id : String} {returns : DiagnosticStore →
  RunEnd} {told : List LintResult}

/-- The standing of a run after the step in which it ends with what it returns on a
store. -/
theorem standing_of_conclude
    {x : Step} {document : Document} {how : RunEnd} {store published : DiagnosticStore}
    {effects : Effects}
    (hx : (s.step x, s.stepEffects x) = s.conclude id document true how published effects)
    (hreturns : returns store = how) :
    (s.step x).Standing id returns (s.resultsFor id [x]) := by
  have hstep : s.step x = (s.conclude id document true how published effects).1 :=
    congrArg Prod.fst hx
  have hrun : (s.step x).run? id = some (.ended (returns store)) := by
    rw [hstep, run?_conclude, hreturns]
  have hgiven : s.resultsFor id [x] = (returns store).delivered?.toList := by
    rw [resultsFor_conclude (congrArg Prod.snd hx), if_pos rfl, hreturns]
  rw [hgiven]
  exact .ended store hrun

theorem standing_start
    (s : Session) (id : String) (document : Document)
    (child : ChildBehavior) (gated : Bool) :
    (s.step (.start id document child gated true)).Standing id
      (s.returned document child gated)
      (s.resultsFor id [.start id document child gated true]) := by
  rcases s.start_cases id document child gated true with
    ⟨how, effects, hlaunch, hstart⟩ | ⟨invocation, effects, hlaunch,
      hgated, hstrikes, hstart⟩ |
    ⟨invocation, effects, ran, hlaunch, rfl, hstart⟩
  · have hreturned : s.returned document child gated s.store = how := by
      rw [returned, hlaunch]
    exact standing_of_conclude hstart hreturned
  · have hnone : s.resultsFor id [.start id document child gated true] = [] := by
      rw [resultsFor_singleton, stepEffects, hstart]
      rfl
    have hwaiting :
        (s.step (.start id document child gated true)).run? id =
          some (.waiting (s.request document) invocation child true) := by
      rw [step, hstart, run?_setRun_self]
    rw [hnone]
    refine .waiting hwaiting ?_
    intro store
    rw [returned, hlaunch, released, hgated, hstrikes]
    rfl
  · have hreturned :
        s.returned document child gated s.store =
          ((s.request document).complete invocation
            (s.released document child gated) s.store).1 := by
      rw [returned, hlaunch]
    exact standing_of_conclude hstart hreturned

/-- A step that leaves a run as it is and gives nothing for it keeps the standing of the
run. -/
theorem Standing.of_unchanged
    {t : Session}
    (h : s.Standing id returns told)
    (hrun : t.run? id = s.run? id) :
    t.Standing id returns told := by
  cases h with
  | waiting hwaiting hreturns =>
      exact .waiting (hrun.trans hwaiting) hreturns
  | cancelled hcancelled =>
      exact .cancelled (hrun.trans hcancelled)
  | ended store hended =>
      exact .ended store (hrun.trans hended)

/-- A run that is told to finish is over, and its result is given unless it was over
before. -/
theorem Standing.finish
    (h : s.Standing id returns told) :
    (s.step (.finish id)).Standing id returns (told ++ s.resultsFor id [.finish id]) := by
  -- only a run that waits goes on, and then with what was recorded when it was started
  rcases s.finish_cases id with
    ⟨request, invocation, child, wantsResult, ran, hwaiting, rfl,
      hfinish⟩ | ⟨hover, hfinish⟩
  · cases h with
    | waiting hrun hreturns =>
        obtain ⟨rfl, rfl, rfl, rfl⟩ :=
          RunState.waiting.inj (Option.some.inj (hwaiting.symm.trans hrun))
        exact standing_of_conclude hfinish (hreturns s.store).symm
    | cancelled hrun =>
        cases hwaiting.symm.trans hrun
    | ended store hrun =>
        cases hwaiting.symm.trans hrun
  · have hnone : s.resultsFor id [.finish id] = [] := by
      rw [resultsFor_singleton, stepEffects, hfinish]
      rfl
    rw [hnone, List.append_nil]
    refine h.of_unchanged ?_
    rw [step, hfinish]

theorem Standing.cancel
    (h : s.Standing id returns told) :
    (s.step (.cancel id)).Standing id returns (told ++ s.resultsFor id [.cancel id]) := by
  have hnone : s.resultsFor id [.cancel id] = [] :=
    resultsFor_eq_nil (by rintro ⟨document, child, gated, wantsResult, hx⟩; cases hx)
      (by simp)
  rw [hnone, List.append_nil]
  rcases s.cancel_cases id with
    ⟨⟨request, invocation, child, wantsResult, hwaiting⟩, hcancel⟩ | ⟨-, hcancel⟩
  · have hcancelled : (s.step (.cancel id)).run? id = some (.ended .cancelled) := by
      rw [step, hcancel, run?_setRun_self]
    cases h with
    | waiting hrun hreturns =>
        exact .cancelled hcancelled
    | cancelled hrun =>
        exact .cancelled hcancelled
    | ended store hrun =>
        cases hwaiting.symm.trans hrun
  · refine h.of_unchanged ?_
    rw [step, hcancel]

/-- No step but a new start under its name takes a run out of its standing. -/
theorem Standing.step
    {x : Step}
    (h : s.Standing id returns told)
    (hstart : ¬ x.Starts id) :
    (s.step x).Standing id returns (told ++ s.resultsFor id [x]) := by
  rcases run?_step_cases hstart with rfl | rfl | ⟨hfinish, hrun⟩
  · exact h.finish
  · exact h.cancel
  · rw [resultsFor_eq_nil hstart hfinish, List.append_nil]
    exact h.of_unchanged hrun

theorem Standing.after
    {later : List Step}
    (h : s.Standing id returns told)
    (hlater : ∀ x ∈ later, ¬ x.Starts id) :
    (s.after later).Standing id returns (told ++ s.resultsFor id later) := by
  -- the session and the results given so far change with each step, the standing is what
  -- they share
  induction later generalizing s told with
  | nil =>
      rw [resultsFor, deliveries, List.filter_nil, List.map_nil, List.append_nil]
      exact h
  | cons x rest ih =>
      have hsplit : s.resultsFor id (x :: rest) =
          s.resultsFor id [x] ++ (s.step x).resultsFor id rest :=
        s.resultsFor_append id [x] rest
      rw [hsplit, ← List.append_assoc]
      exact ih (h.step (hlater x List.mem_cons_self)) fun y hy =>
        hlater y (List.mem_cons_of_mem _ hy)

end Standing

section GivenOnce

variable {s : Session} {id : String} {returns : DiagnosticStore →
  RunEnd} {told : List LintResult}

/-- What was given for a run is what its end stands for, and nothing while it has not
ended. -/
theorem Standing.told_eq
    (h : s.Standing id returns told) :
    told = ((s.runEnd? id).bind RunEnd.delivered?).toList := by
  cases h with
  | waiting hrun hreturns =>
      rw [runEnd?, hrun]
      rfl
  | cancelled hrun =>
      rw [runEnd?_eq_some_iff.mpr hrun]
      rfl
  | ended store hrun =>
      rw [runEnd?_eq_some_iff.mpr hrun]
      rfl

theorem Standing.run?_ne_none
    (h : s.Standing id returns told) :
    s.run? id ≠ none := by
  cases h with
  | waiting hrun hreturns => simp [hrun]
  | cancelled hrun => simp [hrun]
  | ended store hrun => simp [hrun]

theorem Standing.end_eq
    {how : RunEnd}
    (h : s.Standing id returns told)
    (hend : s.runEnd? id = some how)
    (huncancelled : how ≠ .cancelled) :
    ∃ store : DiagnosticStore, returns store = how := by
  rw [runEnd?_eq_some_iff] at hend
  cases h with
  | waiting hrun hreturns =>
      cases hend.symm.trans hrun
  | cancelled hrun =>
      cases hend.symm.trans hrun
      exact absurd rfl huncancelled
  | ended store hrun =>
      cases hend.symm.trans hrun
      exact ⟨store, rfl⟩

/-- A run that is started for a caller that waits has its standing after any steps that do
not start it anew. -/
theorem standing_after_start
    (s : Session) (before : List Step)
    (document : Document) (child : ChildBehavior) (gated : Bool)
    {later : List Step}
    (hlater : ∀ x ∈ later, ¬ x.Starts id) :
    (s.after (before ++ .start id document child gated true :: later)).Standing id
      ((s.after before).returned document child gated)
      ((s.after before).resultsFor id (.start id document child gated true :: later)) := by
  have hgiven := (s.after before).resultsFor_append id
    [.start id document child gated true] later
  rw [List.singleton_append] at hgiven
  rw [after_append, hgiven]
  exact (standing_start (s.after before) id document child gated).after hlater

/-- Let a run be started in the background by a caller that waits for its result, and let
any steps follow that start no other run under its name.  If the run has returned by then,
the caller was given exactly the result that it returned; if it has crashed, exactly an
error with the text of the crash; and nothing if it was cancelled or has not ended.  It is
cancelled by each cancel that comes before its end. -/
theorem result_given_once
    (s : Session) (before : List Step)
    (document : Document) (child : ChildBehavior) (gated : Bool)
    {later : List Step}
    (hlater : ∀ x ∈ later, ¬ x.Starts id) :
    let start := Step.start id document child gated true
    let run := (s.after before).returned document child gated
    let given := (s.after before).resultsFor id (start :: later)
    let final := (s.after (before ++ start :: later)).runEnd? id
    (∀ result : LintResult, final = some (.finished result) →
      given = [result] ∧ ∃ store : DiagnosticStore, run store = .finished result) ∧
    (∀ crash : Crash, final = some (.crashed crash) →
      given =
          [{ status := .error, diagnostics := .empty, invocation := none, code := none,
             errorDetail := some crash.text }] ∧
        ∃ store : DiagnosticStore, run store = .crashed crash) ∧
    (final = some .cancelled → given = []) ∧
    (∀ front rest : List Step, later = front ++ .cancel id :: rest →
      (s.after (before ++ start :: front)).runEnd? id = none → final = some .cancelled) ∧
    (final = none → given = []) := by
  intro start run given final
  have hstanding : (s.after (before ++ start :: later)).Standing id run given :=
    standing_after_start s before document child gated hlater
  have htold : given = (final.bind RunEnd.delivered?).toList := hstanding.told_eq
  refine ⟨?_, ?_, ?_, ?_, ?_⟩
  · intro result hend
    refine ⟨?_, hstanding.end_eq hend (by simp)⟩
    rw [htold, hend]
    rfl
  · intro crash hend
    refine ⟨?_, hstanding.end_eq hend (by simp)⟩
    rw [htold, hend]
    rfl
  · intro hend
    rw [htold, hend]
    rfl
  · rintro front rest rfl hopen
    have hfront := standing_after_start s before document child gated fun x hx =>
      hlater x (List.mem_append_left _ hx)
    have hsplit : before ++ start :: (front ++ .cancel id :: rest) =
        (before ++ start :: front) ++ .cancel id :: rest := by simp
    have hend := runEnd?_after_cancel hfront.run?_ne_none hopen fun x hx =>
      hlater x (List.mem_append_right _ (List.mem_cons_of_mem _ hx))
    rw [← after_append, ← hsplit] at hend
    exact hend
  · intro hend
    rw [htold, hend]
    rfl

/-- A listener that fails when it is told of a file makes the run of its linter's output
crash.  The run is then told to finish and cancelled again, and a run beside it is
cancelled before it is told to finish. -/
theorem result_given_once_after_crash :
    let s : Session :=
      ⟨⟨.empty, [⟨"A", fun content =>
          if content.contains "/w/a.v" then [.fail (.of .runtime "boom")] else []⟩]⟩,
        {}, some "/w", .host, .function .ok, []⟩
    let document : Document := ⟨"/w/a.v", plainLanguage⟩
    let child : ChildBehavior := .ends [] "%Error: a.v:1:2: m".toUTF8.toList (some 1)
    let first : Step := .start "first" document child true true
    let second : Step := .start "second" document child true true
    let later : List Step := [.finish "first", .finish "first", .cancel "first"]
    let ending : List Step := [.cancel "second", .finish "second"]
    ((∀ x ∈ second :: (later ++ ending), ¬ x.Starts "first") ∧ ∀ x ∈ later ++ ending,
      ¬ x.Starts "second") ∧
    (s.after ([] ++ first :: second :: (later ++ ending))).runEnd? "first" =
      some (.crashed (.of .runtime "boom")) ∧
    s.resultsFor "first" (first :: second :: (later ++ ending)) =
      [{ status := .error, diagnostics := .empty, invocation := none, code := none,
         errorDetail := some "boom" }] ∧
    (s.after ([first] ++ second :: (later ++ ending))).runEnd? "second" =
      some .cancelled ∧
    (s.after [first]).resultsFor "second" (second :: (later ++ ending)) = [] := by
  intro s document child first second later ending
  have hfirst : ∀ x ∈ second :: (later ++ ending), ¬ x.Starts "first" := by
    simp [second, later, ending, Step.Starts]
  have hsecond : ∀ x ∈ later ++ ending, ¬ x.Starts "second" := by
    simp [later, ending, Step.Starts]
  have hend :
      (s.after ([] ++ first :: second :: (later ++ ending))).runEnd? "first" =
        some (.crashed (.of .runtime "boom")) := by
    have hcrash :
        ((s.after ([] ++ first :: second :: (later ++ ending))).runEnd? "first").bind
          RunEnd.crash? =
          some (.of .runtime "boom") := by
      decide +kernel
    obtain ⟨how, hend, hhow⟩ := Option.bind_eq_some_iff.mp hcrash
    rw [hend, RunEnd.eq_crashed hhow]
  have hopen : (s.after ([first] ++ second :: later)).runEnd? "second" = none := by
    have hnone : ((s.after ([first] ++ second :: later)).runEnd? "second").isNone =
        true := by
      decide +kernel
    exact Option.isNone_iff_eq_none.mp hnone
  obtain ⟨-, hcrash, -⟩ := result_given_once s [] document child true hfirst
  obtain ⟨-, -, hnothing, hcancelled, -⟩ :=
    result_given_once s [first] document child true hsecond
  have hcancel := hcancelled later [.finish "second"] rfl hopen
  exact ⟨⟨hfirst, hsecond⟩, hend, (hcrash _ hend).1, hcancel, hnothing hcancel⟩

end GivenOnce
end Session
end HdlLint
