import HdlLint.Proofs.CommandLine.ExitCode
import HdlLint.Proofs.Log.LogCalls

/-!
# What stands in the standard output

The log of a lint command goes to the error stream and to files, whatever the settings say
of outputs.  So nothing stands in the standard output but the report of the result.

* `Log.SparesOutput.events`, `sparesOutput_logForRun`: the log writes nothing to the
  standard output.
* `output_eq_announced`: what is announced is all that stands in it.
-/

namespace HdlLint

/-- Nothing stands in the standard output, and neither is an event printed nor does an
output of the log write to it. -/
structure Log.SparesOutput (log : Log) : Prop where
  output_eq : log.outlets.output = ""
  gate_ne : log.gate ≠ .printer
  target_ne : ∀ sink ∈ log.sinks, sink.target ≠ .outputStream

namespace Log

section Calls

variable {log : Log}

theorem output_writeLine
    {target : LogTarget}
    (h : target ≠ .outputStream) (o : Outlets) (line : String) :
    (o.writeLine target line).output = o.output := by
  cases target with
  | errorStream => rfl
  | outputStream => exact absurd rfl h
  | file place => rfl

theorem output_foldl_writeLine
    {sinks : List LogSink}
    (h : ∀ sink ∈ sinks, sink.target ≠ .outputStream) (rank : Nat)
    (entry : LogEntry) (o : Outlets) :
    (sinks.foldl (fun o s =>
      if s.least ≤ rank then o.writeLine s.target (s.format.line entry) else o)
      o).output = o.output := by
  induction sinks generalizing o with
  | nil => rfl
  | cons sink sinks ih =>
      rw [List.foldl_cons, ih fun other hother => h other (List.mem_cons_of_mem _ hother)]
      split
      · exact output_writeLine (h sink List.mem_cons_self) o _
      · rfl

theorem SparesOutput.emit
    (h : log.SparesOutput) (rank : Nat) (entry : LogEntry) (plain : String) :
    (log.emit rank entry plain).SparesOutput := by
  refine ⟨?_, h.gate_ne, h.target_ne⟩
  simp only [Log.emit]
  split_ifs
  · exact (output_writeLine (by decide) _ _).trans h.output_eq
  · exact h.output_eq
  · exact (output_foldl_writeLine h.target_ne _ _ _).trans h.output_eq

theorem SparesOutput.event
    (h : log.SparesOutput) (time : String) (e : Event) :
    (log.event .following time e).2.SparesOutput := by
  rcases event_cases log .following time e with
    ⟨-, plain, heq⟩ | ⟨-, hprinter, -⟩ | ⟨-, heq⟩
  · rw [heq]
    exact h.emit _ _ _
  · exact absurd hprinter h.gate_ne
  · rw [heq]
    exact h

theorem SparesOutput.events
    (h : log.SparesOutput) (time : String) (es : List Event) :
    (log.events time es).SparesOutput := by
  unfold Log.events
  induction es generalizing log with
  | nil => exact h
  | cons e es ih => exact ih (h.event time e)

theorem SparesOutput.setRun
    (h : log.SparesOutput) (id : Option String) :
    (log.setRun id).2.SparesOutput := by
  unfold Log.setRun
  split <;> exact ⟨h.output_eq, h.gate_ne, h.target_ne⟩

/-- Setting up a log without outputs to the standard output. -/
theorem SparesOutput.configure
    {s : LogSettings}
    (h : log.SparesOutput)
    (houtputs : ∀ o ∈ s.outputs, o.destination ≠ .outputStream) :
    (log.configure s).2.SparesOutput := by
  obtain ⟨hforce, rest, hopened, -⟩ := configure_spec log s
  refine ⟨(streams_openOutputs _ s.level s.outputs).1.trans
    h.output_eq, by simp [hforce.gate_eq], ?_⟩
  intro sink hsink
  rw [hforce.sinks_eq, List.nil_append] at hsink
  obtain ⟨o, ho, rfl⟩ := List.mem_map.mp hsink
  have hdestination := houtputs o (hopened ▸ List.mem_append_left rest ho)
  simp only [LogOutput.sink]
  cases hd : o.destination with
  | errorStream => simp [LogDestination.target]
  | outputStream => exact absurd hd hdestination
  | file path => simp [LogDestination.target]

end Calls

end Log

namespace CommandLine

theorem sparesOutput_initialLog
    (tree : FileTree) (verbose : Bool) :
    (initialLog { tree := tree } verbose).SparesOutput :=
  ⟨rfl, by simp [initialLog, Log.configure, Log.openOutputs, Log.openTarget],
    by simp [initialLog, Log.configure, Log.openOutputs, Log.openTarget]⟩

/-- The log of a run is the one with which the program began, or writes to the error
stream and to files. -/
theorem sparesOutput_logForRun
    {log : Log}
    (h : log.SparesOutput) (verbose : Bool) (settings : LogSettings) :
    (logForRun log verbose settings).2.SparesOutput := by
  unfold logForRun LogSettings.forRun
  split
  · rename_i forRun hforRun
    split at hforRun
    · cases hforRun
    · obtain rfl := Option.some.inj hforRun
      refine h.configure fun o ho => ?_
      rcases List.mem_cons.mp ho with rfl | ho
      · simp
      · have hfile := (List.mem_filter.mp ho).2
        rintro hstream
        rw [hstream] at hfile
        cases hfile
  · exact h

/-- What is written to the standard output of what is announced: nothing if it goes to the
error stream, or cannot be said. -/
def announcedOutput : Except Crash LintResult.Announcement → String
  | .ok (.output text) => text
  | _ => ""

section Command

variable {s : Situation} {a : Arguments LintOption} {file : String}
  {loaded : Settings} {r : LintResult}

theorem runLint_output
    {settings : LintSettings} {log : Log}
    (hlog : log.SparesOutput)
    (hend : ((requestOf s a settings file).run s.child .empty).1 = .finished r) :
    (runLint s a settings (documentOf s.surroundings a file) log).outlets.output =
      announcedOutput (announce s a (documentOf s.surroundings a file) r) := by
  unfold runLint
  cases hrun : (requestOf s a settings file).run s.child .empty with
  | mk how rest =>
      rw [hrun] at hend
      obtain rfl : how = .finished r := hend
      unfold requestOf at hrun
      have hspared := ((hlog.setRun none).events s.time rest.2.events).output_eq
      cases hannounce : announce s a (documentOf s.surroundings a file) r with
      | error c =>
          simp only [hrun, hannounce, Log.clearRun, hspared, announcedOutput]
      | ok announcement =>
          cases announcement with
          | output text =>
              simp only [hrun, hannounce, withAnnouncement, Log.clearRun,
                hspared, announcedOutput]
              exact String.empty_append
          | errors text =>
              simp only [hrun, hannounce, withAnnouncement, Log.clearRun,
                hspared, announcedOutput]

/-- What is announced of a result is all that stands in the standard output. -/
theorem output_eq_announced
    {args : List String} {verbose : Bool}
    (hread : readArguments closest lintForms true args = .ok a)
    (hproper : UsedProperly s.surroundings a file)
    (hload : Settings.load s.surroundings (workspaceOf s.surroundings a)
      (a.text? .config) s.environment (.map []) = .ok loaded)
    (hopens : LogOpens s verbose loaded.logging)
    (hend : ((requestOf s a (loaded.linting.changed (changesOf a)) file).run s.child
      .empty).1 = .finished r) :
    (run s (commandLine verbose args)).outlets.output =
      announcedOutput (announce s a (documentOf s.surroundings a file) r) := by
  rw [run_commandLine, lint_of_usedProperly hread hproper]
  have hlog :=
    sparesOutput_logForRun (sparesOutput_initialLog s.surroundings.tree verbose)
      verbose loaded.logging
  unfold LogOpens at hopens
  unfold lintFile
  simp only [settingsOf_eq hload]
  cases hforRun :
    logForRun (initialLog { tree := s.surroundings.tree } verbose)
    verbose loaded.logging with
  | mk crash log =>
      rw [hforRun] at hopens hlog
      obtain rfl : crash = none := hopens
      exact runLint_output hlog hend

end Command

end CommandLine
end HdlLint
