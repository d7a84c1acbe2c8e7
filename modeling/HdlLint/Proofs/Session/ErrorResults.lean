import HdlLint.Proofs.Session.Deliveries
import HdlLint.Proofs.Session.RunStages

/-!
# Errors given to waiting callers, and the store

A waiting caller is given an error where a run ends in a fault or crashes.  As long as the
output of its linter was not read, such a run leaves the store alone.  After that it has
replaced the content, and a listener that fails when it is told makes the run crash: the
caller is given an error, but the content stays replaced.

* `Reads`: the steps in which the output of a linter is read.
* `store_of_error_result`: what a run that is given as an error has done to the store.
-/

namespace HdlLint
namespace Session

open LintRequest

/-- In a step the output of the linter of a run is read: the run ends as soon as it is
started, or it was waiting. -/
inductive Reads (s : Session) : Step → LintRequest → Invocation → LinterOutput → Prop
  | start
      {id : String} {document : Document} {child : ChildBehavior} {wantsResult : Bool}
      {i : Invocation} {output : LinterOutput}
      (hlaunch : ((s.request document).launch child).1 = .running i)
      (hawait : (LinterRun.await i (s.request document).limit child).1 = .ok output) :
      Reads s (.start id document child false wantsResult) (s.request document) i output
  | finish
      {id : String} {r : LintRequest} {i : Invocation}
      {child : ChildBehavior} {wantsResult : Bool}
      {output : LinterOutput}
      (hrun : s.run? id = some (.waiting r i child wantsResult))
      (hawait : (LinterRun.await i r.limit child).1 = .ok output) :
      Reads s (.finish id) r i output

/-- In a step no output of a linter is read. -/
def ReadsNothing (s : Session) (x : Step) : Prop :=
  ∀ (r : LintRequest) (i : Invocation) (output : LinterOutput), ¬ s.Reads x r i output

section ErrorResults

variable {s : Session} {x : Step} {d : Delivery}
variable {r : LintRequest} {i : Invocation} {child : ChildBehavior}
  {output : LinterOutput}

theorem delivery_of_conclude
    {id : String} {document : Document} {wantsResult : Bool} {how : RunEnd}
    {store : DiagnosticStore} {effects : Effects}
    (hx : (s.step x, s.stepEffects x) =
      s.conclude id document wantsResult how store effects)
    (hd : d ∈ (s.stepEffects x).deliveries) :
    (s.step x).runEnd? d.run = some how ∧
    how.delivered? = some d.result ∧
    (s.step x).store = store := by
  have hstep := congrArg Prod.fst hx
  have heffects := congrArg Prod.snd hx
  simp only at hstep heffects
  rw [heffects] at hd
  obtain ⟨rfl, hresult⟩ := mem_deliveries_conclude hd
  rw [hstep, runEnd?_eq_some_iff, run?_conclude]
  exact ⟨rfl, hresult, rfl⟩

theorem complete_of_await
    (h : (LinterRun.await i r.limit child).1 = .ok output) (store : DiagnosticStore) :
    (r.complete i child store).1 = (r.collect i output store).1 ∧
    (r.complete i child store).2.1 = (r.collect i output store).2.1 := by
  rcases r.complete_cases i child store with
    ⟨stop, hstop, -⟩ | ⟨output', houtput, hend, hstore, -⟩
  · cases hstop.symm.trans h
  · cases houtput.symm.trans h
    exact ⟨hend, hstore⟩

/-- A run whose output is read ends with what comes of publishing it. -/
theorem Reads.conclude_eq
    (h : s.Reads x r i output) :
    ∃ (id : String) (document : Document) (wantsResult : Bool) (effects : Effects),
      (s.step x, s.stepEffects x) =
        s.conclude id document wantsResult (r.collect i output s.store).1
          (r.collect i output s.store).2.1 effects := by
  cases h with
  | start hlaunch hawait =>
      rename_i id document child wantsResult
      obtain ⟨hend, hstore⟩ := complete_of_await hawait s.store
      rw [← hend, ← hstore, step, stepEffects, Session.start]
      cases hprogress : (s.request document).launch child with
      | mk progress effects =>
          rw [hprogress] at hlaunch
          obtain rfl : progress = .running i := hlaunch
          exact ⟨id, document, wantsResult, _, rfl⟩
  | finish hrun hawait =>
      rename_i id child wantsResult
      obtain ⟨hend, hstore⟩ := complete_of_await hawait s.store
      rw [← hend, ← hstore, step, stepEffects, Session.finish, hrun]
      exact ⟨id, r.document, wantsResult, _, rfl⟩

/-- A run whose result is given, but whose output was not read, leaves the store alone. -/
theorem store_of_not_reads
    (hd : d ∈ (s.stepEffects x).deliveries)
    (hunread : s.ReadsNothing x) :
    (s.step x).store = s.store := by
  rcases (delivery_cases hd).1 with ⟨document, child, gated, wantsResult, rfl⟩ | rfl
  · simp only [step]
    rcases s.start_cases d.run document child gated wantsResult with
      ⟨how, effects, hlaunch, hstart⟩ | ⟨i, effects, -, -, -, hstart⟩ |
      ⟨i, effects, ran, hlaunch, rfl, hstart⟩
    · rw [hstart]
      rfl
    · rw [hstart]
      rfl
    · rcases (s.request document).complete_cases i
        (s.released document child gated) s.store with
        ⟨stop, -, -, hstore, -⟩ | ⟨output, hawait, -⟩
      · rw [hstart]
        exact hstore
      · cases gated with
        | false =>
            exact absurd (Reads.start (congrArg Prod.fst hlaunch) hawait)
              (hunread _ i output)
        | true =>
            -- a run that is held back waits, or its time limit strikes before anything is
            -- read
            cases hstrikes : strikesWhileWaiting (s.request document) with
            | false =>
                simp only [start, hlaunch, hstrikes]
                rfl
            | true =>
                simp only [released, hstrikes] at hawait
                cases hawait
  · simp only [step]
    rcases s.finish_cases d.run with
      ⟨r, i, child, wantsResult, ran, hrun, rfl, hfinish⟩ | ⟨-, hfinish⟩
    · rcases r.complete_cases i child s.store with
        ⟨stop, -, -, hstore, -⟩ | ⟨output, hawait, -⟩
      · rw [hfinish]
        exact hstore
      · exact absurd (Reads.finish hrun hawait) (hunread r i output)
    · rw [hfinish]

/-- A run whose output was read is given as an error only if a listener failed in its
publication. -/
theorem Reads.crash_of_error
    (h : s.Reads x r i output)
    (hd : d ∈ (s.stepEffects x).deliveries)
    (herror : d.result.status = .error) :
    let publication := s.store.publish (.replace (r.collected i output).diagnostics)
    ∃ crash : Crash,
      publication.crash = some crash ∧
      (s.step x).runEnd? d.run = some (.crashed crash) ∧
      d.result = { status := .error, errorDetail := some crash.text } ∧
      (s.step x).store = publication.store := by
  intro publication
  obtain ⟨id, document, wantsResult, effects, hconclude⟩ := h.conclude_eq
  obtain ⟨hend, hresult, hstore⟩ := delivery_of_conclude hconclude hd
  obtain ⟨hcollected, hpublished, -⟩ := r.collect_eq i output s.store
  rw [hcollected] at hend hresult
  rw [hpublished] at hstore
  cases hcrash :
    (s.store.publish (.replace (r.collected i output).diagnostics)).crash with
  | none =>
      rw [hcrash] at hresult
      have hgiven : r.collected i output = d.result := Option.some.inj hresult
      rw [← hgiven] at herror
      exact absurd herror (r.status_collected_ne i output)
  | some crash =>
      rw [hcrash] at hend hresult
      exact ⟨crash, rfl, hend, (Option.some.inj hresult).symm, hstore⟩

/-- Let a caller be given an error.  Unless the output of a linter was read and a listener
can fail, the run has left the store alone.  A run whose output was read has replaced the
content by the diagnostics in it; being told of them a listener failed, with which the run
crashed, and the store stays as that publication left it. -/
theorem store_of_error_result
    (hd : d ∈ (s.stepEffects x).deliveries)
    (herror : d.result.status = .error) :
    (s.ReadsNothing x ∨ s.store.NeverFails → (s.step x).store = s.store) ∧
    ∀ (r : LintRequest) (i : Invocation) (output : LinterOutput), s.Reads x r i output →
      let found := (r.collected i output).diagnostics
      let publication := s.store.publish (.replace found)
      (∃ crash : Crash,
        publication.crash = some crash ∧
        DiagnosticStore.ListenerCrash s.store.listeners crash ∧
        (s.step x).runEnd? d.run = some (.crashed crash) ∧
        d.result = { status := .error, errorDetail := some crash.text }) ∧
      (s.step x).store = publication.store ∧
      ((∀ l ∈ s.store.listeners, l.MakesNoChange) →
        (s.step x).store.current = found) := by
  refine ⟨?_, ?_⟩
  · intro h
    refine store_of_not_reads hd ?_
    intro r i output hreads
    rcases h with hunread | hnever
    · exact hunread r i output hreads
    · obtain ⟨crash, hcrash, -⟩ := hreads.crash_of_error hd herror
      cases hcrash.symm.trans (crash_publish_collected hnever r i output)
  · intro r i output hreads
    obtain ⟨crash, hcrash, hend, hresult, hstore⟩ := hreads.crash_of_error hd herror
    refine ⟨⟨crash, hcrash, DiagnosticStore.listenerCrash_of_publish hcrash,
      hend, hresult⟩, hstore, ?_⟩
    intro hnochange
    rw [hstore]
    exact DiagnosticStore.current_publish_of_makesNoChange hnochange _

/-- A listener that fails when it is told of a file, and a linter that cannot be
started. -/
theorem store_of_error_result_not_started :
    let s : Session :=
      ⟨⟨.empty, [⟨"A", fun content =>
          if content.contains "/w/a.v" then [.fail (.of .runtime "boom")] else []⟩]⟩,
        {}, some "/w", .host, .function .ok, []⟩
    let child : ChildBehavior :=
      .doesNotStart (.system ⟨some 2, some "No such file or directory", none⟩)
    let x : Step := .start "first" ⟨"/w/a.v", plainLanguage⟩ child false true
    ∃ d ∈ (s.stepEffects x).deliveries,
      d.result.status = .error ∧ (s.step x).store = s.store := by
  intro s child x
  obtain ⟨d, hd, herror⟩ : ∃ d ∈ (s.stepEffects x).deliveries,
    d.result.status = .error := by
    decide +kernel
  have hunread : s.ReadsNothing x := by
    intro r i output hreads
    simp only [x, child] at hreads
    cases hreads with
    | start hlaunch hawait =>
        cases hawait
  exact ⟨d, hd, herror, (store_of_error_result hd herror).1 (Or.inl hunread)⟩

/-- The same listener, and a linter that reports the file: the caller is given an error,
and the diagnostics of the run are shown. -/
theorem error_result_after_change :
    let s : Session :=
      ⟨⟨.empty, [⟨"A", fun content =>
          if content.contains "/w/a.v" then [.fail (.of .runtime "boom")] else []⟩]⟩,
        {}, some "/w", .host, .function .ok, []⟩
    let child : ChildBehavior := .ends [] "%Error: a.v:1:2: m".toUTF8.toList (some 1)
    let x : Step := .start "first" ⟨"/w/a.v", plainLanguage⟩ child false true
    s.store.current.files = [] ∧
    ∃ d ∈ (s.stepEffects x).deliveries,
      d.run = "first" ∧ d.result.status = .error ∧ d.result.errorDetail = some "boom" ∧
      d.result.diagnostics.files = [] ∧ (s.step x).store.current.files = ["/w/a.v"] := by
  decide +kernel

end ErrorResults
end Session
end HdlLint
