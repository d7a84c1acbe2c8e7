import HdlLint.Log.Basic
import HdlLint.Proofs.Files.KeptFiles

/-!
# Opened outputs

Setting up the log opens its outputs in turn.  The first one that cannot be opened ends
this: the outputs before it are in force, it and those behind it are not.  No file is
changed by being opened.

* `openTarget_eq_ok`: what it means that an output can be opened.
* `openOutputs_spec`: which of some outputs are opened.
* `streams_openOutputs`: nothing is written to a stream by this.
* `configure_spec`: the log after it was set up.
-/

namespace HdlLint

/-- Where a destination writes. -/
def LogDestination.target : LogDestination → LogTarget
  | .errorStream => .errorStream
  | .outputStream => .outputStream
  | .file path =>
      .file ((Path.resolve true (Path.Posix.parts path.toList)).map String.ofList)

/-- The rank from which an output of a log with this level writes. -/
def LogOutput.least (o : LogOutput) (level : LogLevel) : Nat :=
  (o.level.getD level).rank

/-- An output of a log with this level, in force. -/
def LogOutput.sink (level : LogLevel) (o : LogOutput) : LogSink :=
  ⟨o.least level, o.format, o.destination.target⟩

namespace Log

/-- The outputs that setting up the log puts in force. -/
def opened (log : Log) (s : LogSettings) : List LogOutput :=
  s.outputs.take (log.configure s).2.sinks.length

/-- The log was set up to its end, or the first of the outputs that are left cannot be
opened. -/
def StoppedBefore (rest : List LogOutput) : Option Crash × Log → Prop
  | (crash, log) =>
    match rest with
    | [] => crash = none
    | failing :: _ =>
        ∃ c : Crash, crash = some c ∧
          openTarget log.outlets failing.destination = .error c

/-- Every output that writes to a file finds it. -/
def FindsFiles (tree : FileTree) (outputs : List LogOutput) : Prop :=
  ∀ o ∈ outputs, ∀ place : List String,
    o.destination.target = .file place → tree.HasFile place

/-- The second log is the first one with some outputs more. -/
structure PutsInForce (log log' : Log) (level : LogLevel) (outputs : List LogOutput) :
    Prop where
  level_eq : log'.level = log.level
  gate_eq : log'.gate = log.gate
  run_eq : log'.run = log.run
  sinks_eq : log'.sinks = log.sinks ++ outputs.map (LogOutput.sink level)
  keeps : log.outlets.tree.Keeps log'.outlets.tree
  findsFiles : FindsFiles log'.outlets.tree outputs

section Opening

variable {outlets outlets' : Outlets}

/-- An output that can be opened finds its file, and all files are kept. -/
theorem openTarget_eq_ok
    {d : LogDestination} {target : LogTarget}
    (h : openTarget outlets d = .ok (target, outlets')) :
    target = d.target ∧ outlets.tree.Keeps outlets'.tree ∧
      ∀ place : List String, d.target = .file place → outlets'.tree.HasFile place := by
  cases d with
  | errorStream =>
      cases h
      exact ⟨rfl, .refl _, by rintro place ⟨⟩⟩
  | outputStream =>
      cases h
      exact ⟨rfl, .refl _, by rintro place ⟨⟩⟩
  | file path =>
      simp only [openTarget, bind, Except.bind, pure, Except.pure] at h
      split at h
      · cases h
      · split at h
        · cases h
        · rename_i tree hfolders
          split at h
          · cases h
          · rename_i tree' hopen
            cases h
            obtain ⟨hkeeps, hfile⟩ := FileTree.keeps_openFile hopen
            refine ⟨rfl, (FileTree.keeps_makeFolders hfolders).trans hkeeps, ?_⟩
            rintro place ⟨⟩
            exact hfile

/-- Nothing is written to a stream by opening an output. -/
theorem streams_openTarget
    {d : LogDestination} {target : LogTarget}
    (h : openTarget outlets d = .ok (target, outlets')) :
    outlets'.output = outlets.output ∧ outlets'.errors = outlets.errors := by
  cases d with
  | errorStream =>
      cases h
      exact ⟨rfl, rfl⟩
  | outputStream =>
      cases h
      exact ⟨rfl, rfl⟩
  | file path =>
      simp only [openTarget, bind, Except.bind, pure, Except.pure] at h
      split at h
      · cases h
      · split at h
        · cases h
        · split at h
          · cases h
          · cases h
            exact ⟨rfl, rfl⟩

theorem streams_openOutputs
    (log : Log) (level : LogLevel) (outputs : List LogOutput) :
    (openOutputs log level outputs).2.outlets.output = log.outlets.output ∧
      (openOutputs log level outputs).2.outlets.errors = log.outlets.errors := by
  induction outputs generalizing log with
  | nil =>
      exact ⟨rfl, rfl⟩
  | cons output outputs ih =>
      rw [openOutputs]
      cases hopen : openTarget log.outlets output.destination with
      | error crash =>
          exact ⟨rfl, rfl⟩
      | ok result =>
          obtain ⟨target, outlets⟩ := result
          obtain ⟨houtput, herrors⟩ := streams_openTarget hopen
          obtain ⟨houtput', herrors'⟩ := ih
            { log with
              outlets := outlets
              sinks := log.sinks ++
                [⟨(output.level.getD level).rank, output.format, target⟩] }
          exact ⟨houtput'.trans houtput, herrors'.trans herrors⟩

/-- Outputs are opened in turn, up to the first that cannot be. -/
theorem openOutputs_spec
    (log : Log) (level : LogLevel) (outputs : List LogOutput) :
    ∃ front rest : List LogOutput,
      outputs = front ++ rest ∧
        PutsInForce log (openOutputs log level outputs).2 level front ∧
        StoppedBefore rest (openOutputs log level outputs) := by
  induction outputs generalizing log with
  | nil =>
      exact ⟨[], [], rfl,
        ⟨rfl, rfl, rfl, (List.append_nil _).symm, .refl _, by rintro o ⟨⟩⟩, rfl⟩
  | cons output outputs ih =>
      rw [openOutputs]
      cases hopen : openTarget log.outlets output.destination with
      | error crash =>
          exact ⟨[], output :: outputs, rfl,
            ⟨rfl, rfl, rfl, (List.append_nil _).symm, .refl _, by rintro o ⟨⟩⟩,
              crash, rfl, hopen⟩
      | ok result =>
          obtain ⟨target, outlets⟩ := result
          obtain ⟨rfl, hkeeps, hfile⟩ := openTarget_eq_ok hopen
          obtain ⟨front, rest, houtputs, hforce, hstopped⟩ :=
            ih { log with outlets := outlets, sinks := log.sinks ++ [output.sink level] }
          refine ⟨output :: front, rest, by rw [houtputs, List.cons_append], ?_, hstopped⟩
          refine ⟨hforce.level_eq, hforce.gate_eq, hforce.run_eq, ?_,
            hkeeps.trans hforce.keeps, ?_⟩
          · exact hforce.sinks_eq.trans (List.append_assoc _ [_] _)
          · intro o ho place hplace
            rcases List.mem_cons.mp ho with rfl | ho
            · exact hforce.keeps.hasFile _ (hfile place hplace)
            · exact hforce.findsFiles o ho place hplace

/-- The log after it was set up: the outputs that were opened are in force, and no
others. -/
theorem configure_spec
    (log : Log) (s : LogSettings) :
    PutsInForce { log with level := s.level, gate := .filter s.level, sinks := [] }
      (log.configure s).2 s.level
        (log.opened s) ∧
      ∃ rest : List LogOutput, s.outputs = log.opened s ++ rest ∧
        StoppedBefore rest (log.configure s) := by
  obtain ⟨front, rest, houtputs, hforce, hstopped⟩ :=
    openOutputs_spec { log with level := s.level, gate := .filter s.level, sinks := [] }
      s.level s.outputs
  have hopened : log.opened s = front := by
    have hlength : (log.configure s).2.sinks.length = front.length := by
      rw [configure, hforce.sinks_eq, List.nil_append, List.length_map]
    rw [opened, hlength, houtputs, List.take_left]
  rw [hopened]
  exact ⟨hforce, rest, houtputs, hstopped⟩

end Opening

end Log

end HdlLint
