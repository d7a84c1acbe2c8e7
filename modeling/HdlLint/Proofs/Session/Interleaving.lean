import HdlLint.Proofs.Session.Isolation

/-!
# Interleaved steps

The two guarantees that a session gives over any sequence of its steps: what a run yields
depends on nothing that happens between its start and its end, and the store holds what
was shown last, without the files closed since then.

* `interleaved_steps`: both, from a session without runs.
-/

namespace HdlLint
namespace Session

/-- Over any steps with quiet listeners every run yields what it yields alone under the
settings that were current when it was started, unless it is cancelled before its end, and
then it has no other end; and the content of the store is the set shown last without the
files closed since then. -/
theorem interleaved_steps
    {s : Session} {steps : List Step}
    (hruns : s.runs = [])
    (hquiet : s.store.Quiet)
    (hcontent : ∃ ds : List Diagnostic, s.store.current = .ofList ds)
    (hsteps : ∀ x ∈ steps, x.Admissible) :
    (∀ (before later : List Step) (document : Document) (child : ChildBehavior),
      steps = before ++ .lint document child :: later →
        ((s.after before).lint document child).1 =
          ((s.fresh (s.settingsAfter before)).lint document child).1) ∧
    (∀ (id : String) (how : RunEnd),
      (s.after steps).runEnd? id = some how → how ≠ .cancelled →
        ∃ (before later : List Step) (document : Document) (child : ChildBehavior)
          (gated wantsResult : Bool),
          steps = before ++ .start id document child gated wantsResult :: later ∧
          (∀ x ∈ later, ¬ x.Starts id) ∧
          s.alone (s.settingsAfter before) id document child gated wantsResult =
            some how) ∧
    (∀ (before later : List Step) (id : String),
      steps = before ++ .cancel id :: later →
        (s.after before).run? id ≠ none → (s.after before).runEnd? id = none →
          (∀ x ∈ later, ¬ x.Starts id) →
            (s.after steps).runEnd? id = some .cancelled) ∧
    (∀ (before later : List Step) (x : Step) (found : DiagnosticSet),
      steps = before ++ x :: later →
        (s.after before).shown? x = some found →
        (s.after (before ++ [x])).ShowsNothing later →
          (s.after steps).store.current = found.dropFiles (closedFiles later)) ∧
    (s.ShowsNothing steps →
      (s.after steps).store.current = s.store.current.dropFiles (closedFiles steps)) ∧
    (∀ (before later : List Step) (x : Step),
      steps = before ++ x :: later →
        (s.after before).shown? x = none → x.closed? = none →
          (s.after (before ++ [x])).store.current = (s.after before).store.current) := by
  obtain ⟨ds, hds⟩ := hcontent
  have hcalm : s.Calm := ⟨hquiet, by rw [hds]; exact DiagnosticSet.grouped_ofList ds⟩
  have hearlier :
      ∀ (before later : List Step) (x : Step),
        steps = before ++ x :: later → ∀ y ∈ before, y.Admissible := by
    rintro before later x rfl y hy
    exact hsteps y (List.mem_append_left _ hy)
  refine ⟨?_, ?_, ?_, ?_, hcalm.after_current hsteps, ?_⟩
  · intro before later document child hsplit
    exact lint_alone hcalm (hearlier before later _ hsplit) document child
  · intro id how hend huncancelled
    have hnew : s.run? id = none := by
      rw [run?, hruns]
      rfl
    exact runEnd?_alone hcalm hnew hsteps hend huncancelled
  · rintro before later id rfl hbegun hopen hlater
    rw [after_append]
    exact runEnd?_after_cancel hbegun hopen hlater
  · rintro before later x found rfl hshown hnothing
    exact hcalm.after_shown hsteps hshown hnothing
  · intro before later x hsplit hshown hclosed
    have hbefore := hcalm.after (hearlier before later x hsplit)
    rw [after_concat, hbefore.current_step x, hshown, hclosed]
    simp

/-- A run is started, the settings change, the run ends as before the change, and a closed
file is forgotten.  Another run is cancelled before it is told to finish. -/
theorem interleaved_steps_update_and_close :
    let s : Session := ⟨.empty, {}, some "/w", .host, .function .ok, []⟩
    let found : DiagnosticSet := .ofList
      [⟨"/w/a.v", 0, 0, "unused", linterName, .warning, linterName⟩,
        ⟨"/w/b.v", 4, 2, "syntax error", linterName, .error, linterName⟩]
    let steps : List Step :=
      [.start "first" ⟨"/w/a.v", plainLanguage⟩ (.ends [] [] (some 0)) true true,
        .start "second" ⟨"/w/a.v", plainLanguage⟩ (.ends [] [] (some 0)) true true,
          .cancel "second",
        .updateSettings { runAtFile := true }, .finish "first", .finish "second",
          .change (.replace found),
        .closeDocument ⟨"/w/b.v", plainLanguage⟩]
    (s.after steps).store.current = found.dropFiles ["/w/b.v"] ∧
      (s.after steps).runEnd? "second" = some .cancelled ∧
      ∃ how : RunEnd, (s.after steps).runEnd? "first" = some how ∧ how ≠ .cancelled ∧
        ∃ (before later : List Step) (document : Document) (child : ChildBehavior)
          (gated wantsResult : Bool),
          steps = before ++ .start "first" document child gated wantsResult :: later ∧
          (∀ x ∈ later, ¬ x.Starts "first") ∧
          s.alone (s.settingsAfter before) "first" document child gated wantsResult =
            some how := by
  intro s found steps
  have hsteps : ∀ x ∈ steps, x.Admissible := by
    simp [steps, Step.Admissible, found]
  have hquiet : s.store.Quiet := by
    intro l hl
    cases hl
  have hended :
      ((s.after steps).runEnd? "first").any (fun how => how matches .finished _) =
        true := by
    decide +kernel
  obtain ⟨how, hhow, hfinished⟩ := Option.any_eq_true _ _ |>.mp hended
  have huncancelled : how ≠ .cancelled := by
    rintro rfl
    cases hfinished
  obtain ⟨-, hends, hcancelled, hshown, -⟩ :=
    interleaved_steps rfl hquiet ⟨[], rfl⟩ hsteps
  refine ⟨?_, ?_, how, hhow, huncancelled, hends "first" how hhow huncancelled⟩
  · exact hshown (steps.take 6) [.closeDocument ⟨"/w/b.v", plainLanguage⟩] _ found
      rfl rfl ⟨rfl, trivial⟩
  · have hwaiting : ((s.after (steps.take 2)).run? "second").isSome = true ∧
        ((s.after (steps.take 2)).runEnd? "second").isNone = true := by
      decide +kernel
    exact hcancelled (steps.take 2)
      (steps.drop 3) "second" rfl (Option.ne_none_iff_isSome.mpr hwaiting.1)
      (Option.isNone_iff_eq_none.mp hwaiting.2) (by simp [steps, Step.Starts])

end Session
end HdlLint
