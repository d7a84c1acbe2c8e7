import HdlLint.Proofs.Session.RunOutcome
import HdlLint.Proofs.Store.FailingListeners

/-!
# Stages of a run

A run can fail in two stages: the invocation cannot be built, or the linter cannot be run
to its end.  `BuildFails` and `RunFails` say which fault either stage ends in, from what
the settings, the translation of paths and the child program do.

* `buildFails_of_built`, `runFails_of_awaited` and `ends_of_awaited`: what one part of a
  run does.
* `run_cases`: a run stops in its first stage, stops in its second one, or publishes what
  its linter wrote.
-/

namespace HdlLint

/-- A translator that gives a path or a fault, but does not crash. -/
def Translator.NeverCrashes (t : Translator) : Prop :=
  ∀ (path : String) (crash : Crash), (t.translate path).2 ≠ .error (.crash crash)

/-- A child program that starts, is refused by the operating system, or cannot be given
its arguments. -/
def ChildBehavior.Foreseen (child : ChildBehavior) : Prop :=
  ∀ crash : Crash, child ≠ .doesNotStart (.other crash)

namespace LintRequest

/-- A path as it is written for the linter. -/
def written (r : LintRequest) (path : String) : Except Stop String :=
  if r.platform.isWindows then
    if r.settings.useWsl then (r.translator.translate path).2
    else .ok (String.ofList (Path.Windows.toSlashes path.toList))
  else .ok path

def built (r : LintRequest) : Except Stop Invocation :=
  (Invocation.build r.settings r.platform r.translator r.root r.document).1

/-- The invocation cannot be built: the path of the document or that of its folder cannot
be translated, or the extra arguments cannot be split. -/
inductive BuildFails (r : LintRequest) : LintFault → Prop
  | path
      {f : LintFault}
      (hpath : r.written r.document.path = .error (.fault f)) :
      BuildFails r f
  | folder
      {f : LintFault} {target : String}
      (hpath : r.written r.document.path = .ok target)
      (hfolder : r.written (r.platform.folder r.document.path) = .error (.fault f)) :
      BuildFails r f
  | arguments
      {f : WordFault} {target folder : String}
      (hpath : r.written r.document.path = .ok target)
      (hfolder : r.written (r.platform.folder r.document.path) = .ok folder)
      (harguments : splitWords (!r.platform.isWindows) r.settings.arguments = .error f) :
      BuildFails r (.invalidArguments r.settings.arguments f.message)

/-- The linter cannot be run to its end: it cannot be started, or the wait for it is
broken off. -/
inductive RunFails (r : LintRequest) (child : ChildBehavior) (i : Invocation) :
    LintFault → Prop
  | refused
      {refusal : SystemRefusal}
      (hchild : child = .doesNotStart (.system refusal)) :
      RunFails r child i (.launchFailed i.command refusal.message)
  | argument
      {crash : Crash}
      (hchild : child = .doesNotStart (.argument crash)) :
      RunFails r child i (.launchFailed i.command crash.text)
  | timesOut
      (hchild : child = .timesOut) :
      RunFails r child i (.timeout i.command (LinterRun.reportedLimit r.limit))
  | atOnce
      {output errors : List UInt8} {code : Option Int}
      (hchild : child = .ends output errors code)
      (hlimit : LinterRun.limitStrikesAtOnce r.limit = true) :
      RunFails r child i (.timeout i.command (LinterRun.reportedLimit r.limit))

def faulted (invocation : Option Invocation) (f : LintFault) : LintResult :=
  { status := .error, invocation := invocation, errorDetail := some f.fault.text }

/-- What the linter is taken to have written and returned. -/
def outputOf (output errors : List UInt8) (code : Option Int) : LinterOutput :=
  ⟨code.getD LinterRun.unknownCode, Text.Utf8.decodeLossy output,
    Text.Utf8.decodeLossy errors⟩

section Building

variable {r : LintRequest}

theorem adapt_fst
    (r : LintRequest) (path : String) :
    ((PathStrategy.select r.platform r.settings.useWsl r.translator).adapt path).1 =
      r.written path := by
  unfold PathStrategy.select written
  cases hwindows : r.platform.isWindows with
  | false =>
      rfl
  | true =>
      cases hwsl : r.settings.useWsl with
      | false =>
          rfl
      | true =>
          simp only [Bool.not_true, if_true, if_false,
            PathStrategy.adapt, Bool.false_eq_true]
          cases (r.translator.translate path).2 <;> rfl

theorem written_of_native
    (h : r.platform.isWindows = false) (path : String) :
    r.written path = .ok path := by
  simp [written, h]

theorem written_of_windows
    (h : r.platform.isWindows = true)
    (hwsl : r.settings.useWsl = false) (path : String) :
    r.written path = .ok (String.ofList (Path.Windows.toSlashes path.toList)) := by
  simp [written, h, hwsl]

theorem written_of_subsystem
    (h : r.platform.isWindows = true)
    (hwsl : r.settings.useWsl = true) (path : String) :
    r.written path = (r.translator.translate path).2 := by
  simp [written, h, hwsl]

theorem written_cases
    (h : r.translator.NeverCrashes) (path : String) :
    (∃ target : String, r.written path = .ok target) ∨
    (∃ f : LintFault, r.written path = .error (.fault f)) := by
  cases hwritten : r.written path with
  | ok target =>
      exact Or.inl ⟨target, rfl⟩
  | error stop =>
      cases stop with
      | fault f =>
          exact Or.inr ⟨f, rfl⟩
      | crash crash =>
          unfold written at hwritten
          split at hwritten
          · split at hwritten
            · exact absurd hwritten (h path crash)
            · cases hwritten
          · cases hwritten

/-- The invocation is built from the two paths as they are written for the linter. -/
theorem built_eq
    (r : LintRequest) :
    r.built =
      (r.written r.document.path).bind fun target =>
        (r.written (r.platform.folder r.document.path)).bind fun folder =>
          Invocation.assemble r.settings r.platform
            (PathStrategy.select r.platform r.settings.useWsl r.translator) r.root
              r.document target folder := by
  have hpath := r.adapt_fst r.document.path
  have hfolder := r.adapt_fst (r.platform.folder r.document.path)
  unfold built Invocation.build
  simp only
  rw [← hpath, ← hfolder]
  cases (PathStrategy.select r.platform r.settings.useWsl r.translator).adapt
    r.document.path with
  | mk target trace =>
      cases target with
      | error stop =>
          rfl
      | ok target =>
          cases (PathStrategy.select r.platform r.settings.useWsl r.translator).adapt
              (r.platform.folder r.document.path) with
          | mk folder trace' =>
              cases folder with
              | error stop =>
                  rfl
              | ok folder =>
                  simp only [Except.bind]
                  cases Invocation.assemble r.settings r.platform
                    (PathStrategy.select r.platform r.settings.useWsl r.translator)
                      r.root r.document
                    target folder <;> rfl

theorem BuildFails.built_eq
    {f : LintFault}
    (h : r.BuildFails f) :
    r.built = .error (.fault f) := by
  rw [LintRequest.built_eq]
  cases h with
  | path hpath =>
      rw [hpath]
      rfl
  | folder hpath hfolder =>
      rw [hpath, hfolder]
      rfl
  | arguments hpath hfolder harguments =>
      rw [hpath, hfolder]
      simp only [Except.bind, Invocation.assemble, Invocation.extraWords, harguments]
      rfl

/-- If paths are translated or refused, an invocation that cannot be built fails as
`BuildFails` says. -/
theorem buildFails_of_built
    {stop : Stop}
    (h : r.translator.NeverCrashes)
    (hstop : r.built = .error stop) :
    ∃ f : LintFault, stop = .fault f ∧ r.BuildFails f := by
  have hfault : ∀ f : LintFault, r.BuildFails f → stop = .fault f := fun f hfails =>
    Except.error.inj (hstop.symm.trans hfails.built_eq)
  rcases written_cases h r.document.path with ⟨target, hpath⟩ | ⟨f, hpath⟩
  · rcases written_cases h (r.platform.folder r.document.path) with
      ⟨folder, hfolder⟩ | ⟨f, hfolder⟩
    · cases harguments : splitWords (!r.platform.isWindows) r.settings.arguments with
      | error f =>
          have hfails := BuildFails.arguments hpath hfolder harguments
          exact ⟨_, hfault _ hfails, hfails⟩
      | ok extra =>
          have hextra : Invocation.extraWords r.settings r.platform = .ok extra := by
            rw [Invocation.extraWords, harguments]
          rw [built_eq, hpath, hfolder] at hstop
          simp only [Except.bind, Invocation.assemble, hextra, Except.map] at hstop
          cases hstop
    · have hfails := BuildFails.folder hpath hfolder
      exact ⟨f, hfault f hfails, hfails⟩
  · have hfails := BuildFails.path hpath
    exact ⟨f, hfault f hfails, hfails⟩

end Building

section Running

variable {r : LintRequest} {child : ChildBehavior} {i : Invocation}
  {store : DiagnosticStore}

/-- A run whose invocation cannot be built ends without the linter and before anyone is
told of anything. -/
theorem launch_of_error
    {stop : Stop}
    (h : r.built = .error stop) (child : ChildBehavior) :
    (r.launch child).1 = .ended (stopped none stop).1 ∧
    (r.launch child).2.actions = [] ∧
    (r.launch child).2.notices = [] := by
  unfold built at h
  unfold launch
  cases hbuild :
    Invocation.build r.settings r.platform r.translator r.root r.document with
  | mk built paths =>
      rw [hbuild] at h
      obtain rfl : built = .error stop := h
      cases stop <;> exact ⟨rfl, rfl, rfl⟩

/-- A run whose invocation is built launches the linter once, and tells no one of anything
before it is running. -/
theorem launch_of_ok
    (h : r.built = .ok i) (child : ChildBehavior) :
    (r.launch child).1 =
      (match (LinterRun.launch i child).1 with
        | .error stop => .ended (stopped (some i) stop).1
        | .ok _ => .running i) ∧
    (r.launch child).2.actions = [.launch i.argv i.folder] ∧
    (r.launch child).2.notices = [] := by
  have hactions : (LinterRun.launch i child).2.actions = [.launch i.argv i.folder] := by
    unfold LinterRun.launch
    split <;> rfl
  unfold built at h
  unfold launch
  cases hbuild :
    Invocation.build r.settings r.platform r.translator r.root r.document with
  | mk built paths =>
      rw [hbuild] at h
      obtain rfl : built = .ok i := h
      cases hlaunch : LinterRun.launch i child with
      | mk launched trace =>
          rw [hlaunch] at hactions
          cases launched with
          | error stop =>
              cases stop <;>
                simp_all [Effects.append, Effects.ofEvents, Effects.ofPaths,
                  Effects.ofRun, stopped]
          | ok started =>
              simp_all [Effects.append, Effects.ofEvents, Effects.ofPaths, Effects.ofRun]

/-- The linter is launched, and its output awaited if it is running. -/
def awaited (r : LintRequest) (i : Invocation) (child : ChildBehavior) :
    Except Stop LinterOutput :=
  (LinterRun.launch i child).1.bind fun _ => (LinterRun.await i r.limit child).1

/-- If the linter is started or refused, a linter that cannot be run to its end fails as
`RunFails` says. -/
theorem runFails_of_awaited
    {stop : Stop}
    (h : child.Foreseen)
    (hstop : r.awaited i child = .error stop) :
    ∃ f : LintFault, stop = .fault f ∧ r.RunFails child i f := by
  unfold awaited at hstop
  cases child with
  | doesNotStart fault =>
      cases fault with
      | system refusal =>
          cases hstop
          exact ⟨_, rfl, .refused rfl⟩
      | argument crash =>
          cases hstop
          exact ⟨_, rfl, .argument rfl⟩
      | other crash =>
          exact absurd rfl (h crash)
  | timesOut =>
      cases hstop
      exact ⟨_, rfl, .timesOut rfl⟩
  | ends output errors code =>
      cases hlimit : LinterRun.limitStrikesAtOnce r.limit with
      | true =>
          simp only [LinterRun.launch, Except.bind, LinterRun.await,
            hlimit, if_true] at hstop
          cases hstop
          exact ⟨_, rfl, .atOnce rfl hlimit⟩
      | false =>
          simp [LinterRun.launch, Except.bind, LinterRun.await, hlimit] at hstop

theorem ends_of_awaited
    {output : LinterOutput}
    (h : r.awaited i child = .ok output) :
    ∃ (written errors : List UInt8) (code : Option Int),
      child = .ends written errors code ∧ LinterRun.limitStrikesAtOnce r.limit = false ∧
      output = outputOf written errors code := by
  unfold awaited at h
  cases child with
  | doesNotStart fault =>
      cases fault <;> cases h
  | timesOut =>
      cases h
  | ends written errors code =>
      cases hlimit : LinterRun.limitStrikesAtOnce r.limit with
      | true =>
          simp [LinterRun.launch, Except.bind, LinterRun.await,
            LinterRun.giveUp, hlimit] at h
      | false =>
          simp only [LinterRun.launch, Except.bind, LinterRun.await, hlimit,
            Bool.false_eq_true, if_false] at h
          cases h
          exact ⟨written, errors, code, rfl, rfl, rfl⟩

/-- A run whose linter is running ends as it stopped, or publishes what the linter
wrote. -/
theorem complete_cases
    (r : LintRequest) (i : Invocation) (child : ChildBehavior) (store : DiagnosticStore) :
    (∃ stop : Stop,
      (LinterRun.await i r.limit child).1 = .error stop ∧
      (r.complete i child store).1 = (stopped (some i) stop).1 ∧
      (r.complete i child store).2.1 = store ∧
      (r.complete i child store).2.2.notices = []) ∨
    (∃ output : LinterOutput,
      (LinterRun.await i r.limit child).1 = .ok output ∧
      (r.complete i child store).1 = (r.collect i output store).1 ∧
      (r.complete i child store).2.1 = (r.collect i output store).2.1 ∧
      (r.complete i child store).2.2.notices =
        (r.collect i output store).2.2.notices) := by
  unfold complete
  cases LinterRun.await i r.limit child with
  | mk awaited trace =>
      cases awaited with
      | error stop =>
          cases stop <;> exact Or.inl ⟨_, rfl, rfl, rfl, rfl⟩
      | ok output =>
          refine Or.inr ⟨output, rfl, rfl, rfl, ?_⟩
          simp [Effects.append, Effects.ofRun]

theorem status_collected_ne
    (r : LintRequest) (i : Invocation) (output : LinterOutput) :
    (r.collected i output).status ≠ .error := by
  unfold collected
  split <;> simp

theorem crash_publish_collected
    (h : store.NeverFails) (r : LintRequest) (i : Invocation) (output : LinterOutput) :
    (store.publish (.replace (r.collected i output).diagnostics)).crash = none := by
  obtain ⟨ds, hds⟩ : ∃ ds : List Diagnostic,
    (r.collected i output).diagnostics = .ofList ds :=
    ⟨_, rfl⟩
  rw [hds]
  exact h.crash_publish ds

/-- Publishing what the linter wrote: the store is that of the publication, and a failure
of it is the end of the run. -/
theorem collect_eq
    (r : LintRequest) (i : Invocation) (output : LinterOutput) (store : DiagnosticStore) :
    (r.collect i output store).1 =
      (match (store.publish (.replace (r.collected i output).diagnostics)).crash with
        | some crash => .crashed crash
        | none => .finished (r.collected i output)) ∧
    (r.collect i output store).2.1 =
      (store.publish (.replace (r.collected i output).diagnostics)).store ∧
    (r.collect i output store).2.2.notices =
      (store.publish (.replace (r.collected i output).diagnostics)).notices := by
  unfold collect collected
  simp only
  cases (store.publish (.replace (Transcript.read r.scope output.errors).1)).crash <;>
    simp [Effects.append, Effects.ofEvents]

/-- A run stops in building the invocation, stops in running the linter, or publishes what
the linter wrote. -/
theorem run_cases
    (r : LintRequest) (child : ChildBehavior) (store : DiagnosticStore) :
    (∃ stop : Stop,
      r.built = .error stop ∧
      (r.run child store).1 = (stopped none stop).1 ∧
      (r.run child store).2.1 = store ∧
      (r.run child store).2.2.notices = [] ∧
      (r.run child store).2.2.actions = []) ∨
    (∃ (i : Invocation) (stop : Stop),
      r.built = .ok i ∧ r.awaited i child = .error stop ∧
      (r.run child store).1 = (stopped (some i) stop).1 ∧
      (r.run child store).2.1 = store ∧
      (r.run child store).2.2.notices = [] ∧
      (r.run child store).2.2.actions.head? = some (.launch i.argv i.folder)) ∨
    (∃ (i : Invocation) (output : LinterOutput),
      r.built = .ok i ∧ r.awaited i child = .ok output ∧
      (r.run child store).1 = (r.collect i output store).1 ∧
      (r.run child store).2.1 = (r.collect i output store).2.1 ∧
      (r.run child store).2.2.notices = (r.collect i output store).2.2.notices ∧
      (r.run child store).2.2.actions.head? = some (.launch i.argv i.folder)) := by
  -- the cases follow the stages: building decides whether there is a launch, and the
  -- launch whether anything is awaited
  unfold run
  cases hbuilt : r.built with
  | error stop =>
      obtain ⟨hend, hactions, hnotices⟩ := launch_of_error hbuilt child
      cases hlaunch : r.launch child with
      | mk progress effects =>
          rw [hlaunch] at hend hactions hnotices
          obtain rfl : progress = _ := hend
          exact Or.inl ⟨stop, rfl, rfl, rfl, hnotices, hactions⟩
  | ok i =>
      obtain ⟨hend, hactions, hnotices⟩ := launch_of_ok hbuilt child
      cases hlaunch : r.launch child with
      | mk progress effects =>
          rw [hlaunch] at hend hactions hnotices
          cases hlaunched : (LinterRun.launch i child).1 with
          | error stop =>
              have hstop : r.awaited i child = .error stop := by
                rw [awaited, hlaunched]
                rfl
              rw [hlaunched] at hend
              obtain rfl : progress = _ := hend
              have hlaunches : effects.actions.head? =
                  some (.launch i.argv i.folder) := by
                rw [hactions]
                rfl
              exact Or.inr (Or.inl ⟨i, stop, rfl, hstop, rfl, rfl, hnotices, hlaunches⟩)
          | ok started =>
              have hawaited : r.awaited i child =
                  (LinterRun.await i r.limit child).1 := by
                rw [awaited, hlaunched]
                rfl
              rw [hlaunched] at hend
              obtain rfl : progress = _ := hend
              have htold :
                  (effects.append (r.complete i child store).2.2).notices =
                    (r.complete i child store).2.2.notices := by
                simp only [Effects.append] at hnotices ⊢
                rw [hnotices, List.nil_append]
              have hlaunches :
                  (effects.append (r.complete i child store).2.2).actions.head? =
                    some (.launch i.argv i.folder) := by
                simp only [Effects.append] at hactions ⊢
                rw [hactions]
                rfl
              rcases r.complete_cases i child store with
                ⟨stop, hstop, hend, hstore, hcomplete⟩ | ⟨output, houtput,
                  hend, hstore, hcomplete⟩
              · exact Or.inr (Or.inl
                  ⟨i, stop, rfl, hawaited.trans hstop, hend, hstore,
                    htold.trans hcomplete, hlaunches⟩)
              · exact Or.inr (Or.inr
                  ⟨i, output, rfl, hawaited.trans houtput, hend, hstore,
                    htold.trans hcomplete, hlaunches⟩)

theorem published_of_finished
    {result : LintResult}
    (hend : (r.run child store).1 = .finished result)
    (hstatus : result.status ≠ .error) :
    ∃ (i : Invocation) (output : LinterOutput),
      r.built = .ok i ∧ r.awaited i child = .ok output ∧
      result = r.collected i output ∧
      (r.run child store).2.1 = (store.publish (.replace result.diagnostics)).store := by
  have hstopped : ∀ (i? : Option Invocation) (stop : Stop),
      (stopped i? stop).1 ≠ .finished result := by
    rintro i? (f | crash) h
    · cases h
      exact hstatus rfl
    · cases h
  rcases r.run_cases child store with
    ⟨stop, -, hstop, -⟩ | ⟨i, stop, -, -, hstop, -⟩ | ⟨i, output, hbuilt,
      hawaited, hcollect, hstore, -⟩
  · exact absurd (hstop.symm.trans hend) (hstopped _ stop)
  · exact absurd (hstop.symm.trans hend) (hstopped _ stop)
  · obtain ⟨hcollected, hpublished, -⟩ := r.collect_eq i output store
    rw [hend, hcollected] at hcollect
    cases hcrash :
      (store.publish (.replace (r.collected i output).diagnostics)).crash with
    | some crash =>
        rw [hcrash] at hcollect
        cases hcollect
    | none =>
        rw [hcrash] at hcollect
        have hresult : result = r.collected i output := RunEnd.finished.inj hcollect
        refine ⟨i, output, hbuilt, hawaited, hresult, ?_⟩
        rw [hstore, hpublished, hresult]

theorem written_of_built
    (h : r.built = .ok i) :
    r.written r.document.path = .ok i.targetPath := by
  rw [built_eq] at h
  cases hpath : r.written r.document.path with
  | error stop =>
      rw [hpath] at h
      cases h
  | ok target =>
      cases hfolder : r.written (r.platform.folder r.document.path) with
      | error stop =>
          rw [hpath, hfolder] at h
          cases h
      | ok folder =>
          rw [hpath, hfolder] at h
          simp only [Except.bind, Invocation.assemble] at h
          cases hextra : Invocation.extraWords r.settings r.platform with
          | error stop =>
              rw [hextra] at h
              cases h
          | ok extra =>
              rw [hextra] at h
              cases h
              rfl

end Running
end LintRequest
end HdlLint
