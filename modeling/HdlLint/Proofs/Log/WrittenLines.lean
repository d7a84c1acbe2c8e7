import HdlLint.Proofs.Log.EntryFields
import HdlLint.Proofs.Log.LogCalls
import HdlLint.Proofs.Text.Utf8Characters

/-!
# Lines that the log writes

What a file holds after some calls of the log is what it held before and then, call by
call, the lines of the outputs that were in force at the call and write to it.

* `written_emit`: what one entry adds to a file or a stream.
* `inForce_after`: the outputs that are in force after some calls.
* `content_call`: what one call adds to a file.
* `content_after`: what a file holds after some calls.
-/

namespace HdlLint

/-- What stands in a stream or in a file. -/
def Outlets.written (o : Outlets) : LogTarget → List UInt8
  | .errorStream => o.errors.toUTF8.toList
  | .outputStream => o.output.toUTF8.toList
  | .file place => o.tree.content place

namespace Log

open LogCall (withHistory latest?)

/-- The outputs of the latest configuration that could be opened. -/
def outputsInForce (o : Outlets) (calls : List LogCall) : List LogOutput :=
  (latest? (fun before c => match c with
    | .configure s => some ((after o before).log.opened s)
    | _ => none) calls).getD []

/-- The lines that a call writes to a file: one for each output in force that writes to it
and takes the rank. -/
def linesOfCall (o : Outlets) (place : List String) (before : List LogCall)
    (c : LogCall) : List String :=
  match c.heard? (standingAfter o before) with
  | some (rank, entry) =>
    ((outputsInForce o before).filter fun output =>
      output.destination.target = .file place ∧
        output.least (levelInForce before) ≤ rank).map fun output =>
          output.format.line entry
  | none => []

/-- The lines that calls write to a file. -/
def linesOf (o : Outlets) (place : List String) (calls : List LogCall) : List String :=
  (withHistory [] calls).flatMap fun x => linesOfCall o place x.1 x.2

/-- Lines as they stand in a file. -/
def bytesOfLines (lines : List String) : List UInt8 :=
  lines.flatMap fun line => (line ++ "\n").toUTF8.toList

section History

theorem linesOf_concat
    (o : Outlets) (place : List String) (calls : List LogCall) (c : LogCall) :
    linesOf o place (calls ++ [c]) =
      linesOf o place calls ++ linesOfCall o place calls c := by
  rw [linesOf, withHistory_concat, List.flatMap_append]
  simp [linesOf]

theorem bytesOfLines_append
    (lines more : List String) :
    bytesOfLines (lines ++ more) = bytesOfLines lines ++ bytesOfLines more :=
  List.flatMap_append

end History

section Emitting

variable {place : List String}

/-- Every output in force that writes to a file finds it. -/
def SinksFindFiles (log : Log) : Prop :=
  ∀ sink ∈ log.sinks, ∀ place : List String, sink.target = .file place →
    log.outlets.tree.HasFile place

theorem hasFile_writeLine
    {o : Outlets}
    (h : o.tree.HasFile place) (target : LogTarget) (line : String) :
    (o.writeLine target line).tree.HasFile place := by
  cases target with
  | errorStream =>
      exact h
  | outputStream =>
      exact h
  | file p =>
      exact FileTree.hasFile_append h p _

theorem toList_toUTF8_append
    (s t : String) :
    (s ++ t).toUTF8.toList = s.toUTF8.toList ++ t.toUTF8.toList := by
  rw [Text.Utf8.toList_toUTF8, Text.Utf8.toList_toUTF8, Text.Utf8.toList_toUTF8,
    String.toList_append, List.flatMap_append]

theorem written_writeLine
    {o : Outlets} {t : LogTarget}
    (h : ∀ p : List String, t = .file p → o.tree.HasFile p) (line : String)
    (target : LogTarget) :
    (o.writeLine t line).written target =
      o.written target ++ bytesOfLines (if t = target then [line] else []) := by
  by_cases ht : t = target
  · subst ht
    rw [if_pos rfl, bytesOfLines, List.flatMap_singleton]
    cases t with
    | errorStream => exact toList_toUTF8_append o.errors (line ++ "\n")
    | outputStream => exact toList_toUTF8_append o.output (line ++ "\n")
    | file p =>
        have hcontent := FileTree.content_append (h p rfl) (line ++ "\n").toUTF8.toList p
        rwa [if_pos rfl] at hcontent
  · rw [if_neg ht, bytesOfLines, List.flatMap_nil, List.append_nil]
    cases t with
    | errorStream => cases target <;> first | rfl | contradiction
    | outputStream => cases target <;> first | rfl | contradiction
    | file p =>
        cases target with
        | errorStream => rfl
        | outputStream => rfl
        | file place =>
            have hplace : place ≠ p := fun heq => ht (congrArg LogTarget.file heq.symm)
            have hcontent :=
              FileTree.content_append (h p rfl) (line ++ "\n").toUTF8.toList place
            rwa [if_neg hplace, List.append_nil] at hcontent

/-- An entry that is given to outputs in force. -/
def writeEntry (rank : Nat) (entry : LogEntry) (o : Outlets) (sink : LogSink) : Outlets :=
  if sink.least ≤ rank then o.writeLine sink.target (sink.format.line entry) else o

/-- What outputs add for an entry: a line for each of them that writes to the target and
takes the rank. -/
theorem written_foldl_writeEntry
    (rank : Nat) (entry : LogEntry) (sinks : List LogSink) (o : Outlets)
    (h : ∀ sink ∈ sinks, ∀ p : List String, sink.target = .file p → o.tree.HasFile p)
    (target : LogTarget) :
    (sinks.foldl (writeEntry rank entry) o).written target =
        o.written target ++
          bytesOfLines
            ((sinks.filter fun sink =>
              sink.target = target ∧ sink.least ≤ rank).map fun sink =>
                sink.format.line entry) ∧
      ∀ p : List String, o.tree.HasFile p →
        (sinks.foldl (writeEntry rank entry) o).tree.HasFile p := by
  induction sinks generalizing o with
  | nil =>
      exact ⟨by simp [bytesOfLines], fun p hp => hp⟩
  | cons sink sinks ih =>
      have hkept : ∀ p : List String,
          o.tree.HasFile p → (writeEntry rank entry o sink).tree.HasFile p := by
        intro p hp
        unfold writeEntry
        split
        · exact hasFile_writeLine hp _ _
        · exact hp
      obtain ⟨hcontent, hfiles⟩ :=
        ih (writeEntry rank entry o sink) fun other hother p hp =>
          hkept p (h other (List.mem_cons_of_mem _ hother) p hp)
      refine ⟨?_, fun p hp => hfiles p (hkept p hp)⟩
      have hfirst : (writeEntry rank entry o sink).written target =
          o.written target ++
            bytesOfLines
              (if sink.target = target ∧ sink.least ≤ rank then [sink.format.line entry]
              else []) := by
        unfold writeEntry
        by_cases hrank : sink.least ≤ rank
        · rw [if_pos hrank, written_writeLine (h sink List.mem_cons_self)]
          simp [hrank]
        · rw [if_neg hrank, if_neg fun hboth => hrank hboth.2]
          simp [bytesOfLines]
      rw [List.foldl_cons, hcontent, hfirst, List.append_assoc, ← bytesOfLines_append]
      by_cases htakes : sink.target = target ∧ sink.least ≤ rank
      · simp [htakes]
      · simp [htakes]

/-- What one entry adds.  Without outputs in force the error stream gets a plain text
instead. -/
theorem written_emit
    {log : Log} {target : LogTarget}
    (h : log.SinksFindFiles)
    (hsinks : target = .errorStream → log.sinks ≠ []) (rank : Nat)
    (entry : LogEntry) (plain : String) :
    (log.emit rank entry plain).outlets.written target =
      log.outlets.written target ++
        bytesOfLines
          ((log.sinks.filter fun sink =>
            sink.target = target ∧ sink.least ≤ rank).map fun sink =>
              sink.format.line entry) := by
  unfold emit
  by_cases hempty : log.sinks.isEmpty = true
  · have hnone : log.sinks = [] := List.isEmpty_iff.mp hempty
    have htarget : target ≠ .errorStream := fun heq => hsinks heq hnone
    have hstream : (if leastUnrouted ≤ rank then log.outlets.writeLine .errorStream plain
        else log.outlets).written target =
        log.outlets.written target := by
      split
      · cases target with
        | errorStream => exact absurd rfl htarget
        | outputStream => rfl
        | file p => rfl
      · rfl
    simp only [hempty, if_true, hstream]
    simp [hnone, bytesOfLines]
  · simp only [hempty, Bool.false_eq_true, if_false]
    exact (written_foldl_writeEntry rank entry log.sinks log.outlets h target).1

theorem hasFile_emit
    {log : Log}
    (h : log.SinksFindFiles) (rank : Nat) (entry : LogEntry)
    (plain : String) {p : List String}
    (hp : log.outlets.tree.HasFile p) :
    (log.emit rank entry plain).outlets.tree.HasFile p := by
  unfold emit
  simp only
  split_ifs
  · exact hp
  · exact hp
  · obtain ⟨-, hkept⟩ :=
      written_foldl_writeEntry rank entry log.sinks log.outlets h .outputStream
    exact hkept p hp

end Emitting

section Calls

variable {o : Outlets} {u : LogUse} {calls : List LogCall} {c : LogCall}

/-- A log with the outputs that are in force after some calls, in the standing that they
lead to. -/
structure InForce (o : Outlets) (calls : List LogCall) (u : LogUse) : Prop where
  standing_eq : u.standing = standingAfter o calls
  sinks_eq : u.log.sinks =
    (outputsInForce o calls).map (LogOutput.sink (levelInForce calls))
  findsFiles : FindsFiles u.log.outlets.tree (outputsInForce o calls)

theorem InForce.sinksFindFiles
    (h : InForce o calls u) :
    u.log.SinksFindFiles := by
  intro sink hsink place hplace
  rw [h.sinks_eq] at hsink
  obtain ⟨output, houtput, rfl⟩ := List.mem_map.mp hsink
  exact h.findsFiles output houtput place hplace

/-- A call adds nothing to a file that no output in force writes to. -/
theorem linesOfCall_eq_nil_or
    (o : Outlets) (place : List String) (before : List LogCall) (c : LogCall) :
    linesOfCall o place before c = [] ∨
      ∃ output ∈ outputsInForce o before, output.destination.target = .file place := by
  unfold linesOfCall
  split
  · rename_i rank entry _
    by_cases hnamed : ∃ output ∈ outputsInForce o before,
      output.destination.target = .file place
    · exact Or.inr hnamed
    · refine Or.inl
        (List.map_eq_nil_iff.mpr (List.filter_eq_nil_iff.mpr fun output houtput => ?_))
      rw [decide_eq_true_iff]
      exact fun htakes => hnamed ⟨output, houtput, htakes.1⟩
  · exact Or.inl rfl

/-- What is heard is emitted. -/
theorem call_of_heard?
    {rank : Nat} {entry : LogEntry}
    (h : c.heard? u.standing = some (rank, entry)) :
    ∃ plain : String, (u.call c).log = u.log.emit rank entry plain := by
  obtain ⟨time, n, e, logger, rfl, hlogger, hhands, rfl, rfl⟩ |
    ⟨time, source, text, rfl, hrank, rfl⟩ := heard?_cases h
  · have hcall : (u.call (.event time n e)).log = (u.log.event logger time e).2 := by
      rw [LogUse.call, show u.loggers[n]? = some logger from hlogger]
    rw [hcall]
    rcases event_cases u.log logger time e with ⟨-, hemitted⟩ | ⟨hno, -⟩ | ⟨hno, -⟩
    · exact hemitted
    · exact absurd hhands (Bool.eq_false_iff.mp hno)
    · exact absurd hhands (Bool.eq_false_iff.mp hno)
  · exact ⟨_, if_pos hrank⟩

/-- What is not heard changes nothing that is written, save that it may be printed, or set
up the log. -/
theorem outlets_of_heard?
    (h : c.heard? u.standing = none) :
    (u.call c).log.outlets = u.log.outlets ∨
      (c.IsPrinted u.standing ∧ ∃ line : String,
        (u.call c).log.outlets = u.log.outlets.writeLine .outputStream line) ∨
      ∃ s : LogSettings, c = .configure s := by
  cases c with
  | configure s =>
      exact Or.inr (Or.inr ⟨s, rfl⟩)
  | setRun id =>
      exact Or.inl (setRun_keeps u.log id).2.2.2
  | clearRun =>
      exact Or.inl rfl
  | getLogger name =>
      exact Or.inl rfl
  | event time n e =>
      simp only [LogUse.call]
      split
      · rename_i logger hlogger
        simp only [LogCall.heard?,
          show u.standing.loggers[n]? = some logger from hlogger] at h
        split at h
        · cases h
        · rename_i hno
          rcases event_cases u.log logger time e with
            ⟨hhands, -⟩ | ⟨-, hprinter, hprinted⟩ | ⟨-, hdropped⟩
          · exact absurd hhands hno
          · exact Or.inr
              (Or.inl ⟨⟨logger, hlogger, hprinter⟩, _, congrArg Log.outlets hprinted⟩)
          · exact Or.inl (congrArg Log.outlets hdropped)
      · exact Or.inl rfl
  | message time source rank text =>
      simp only [LogCall.heard?] at h
      split at h
      · cases h
      · rename_i hlevel
        have hsilent : u.log.message time source rank text = u.log := if_neg hlevel
        exact Or.inl (congrArg Log.outlets hsilent)

/-- Every call that is not heard leaves all files as they are. -/
theorem keeps_of_heard?
    (h : c.heard? u.standing = none) :
    u.log.outlets.tree.Keeps (u.call c).log.outlets.tree := by
  rcases outlets_of_heard? h with hsame | ⟨-, line, hprinted⟩ | ⟨s, rfl⟩
  · rw [hsame]
    exact .refl _
  · rw [hprinted]
    exact .refl _
  · exact (configure_spec u.log s).1.keeps

/-- What one call adds to a file. -/
theorem content_call
    (h : InForce o calls u) (c : LogCall) (place : List String) :
    (u.call c).log.outlets.tree.content place =
        u.log.outlets.tree.content place ++ bytesOfLines (linesOfCall o place calls c) ∧
      ∀ p : List String, u.log.outlets.tree.HasFile p →
        (u.call c).log.outlets.tree.HasFile p := by
  unfold linesOfCall
  rw [← h.standing_eq]
  cases hentry : c.heard? u.standing with
  | none =>
      have hkeeps := keeps_of_heard? hentry
      refine ⟨?_, hkeeps.hasFile⟩
      rw [hkeeps.content_eq]
      simp [bytesOfLines]
  | some heard =>
      obtain ⟨rank, entry⟩ := heard
      obtain ⟨plain, hcall⟩ := call_of_heard? hentry
      rw [hcall]
      have hwritten := written_emit h.sinksFindFiles
        (show LogTarget.file place = .errorStream → _ by rintro ⟨⟩) rank entry plain
      refine ⟨?_, fun p => hasFile_emit h.sinksFindFiles rank entry plain⟩
      rw [h.sinks_eq, List.filter_map, List.map_map] at hwritten
      exact hwritten

theorem outputsInForce_concat
    (o : Outlets) (calls : List LogCall) (c : LogCall) :
    outputsInForce o (calls ++ [c]) = match c with
      | .configure s => (after o calls).log.opened s
      | _ => outputsInForce o calls := by
  rw [outputsInForce, latest?_concat]
  cases c <;> rfl

theorem sinks_call
    (u : LogUse) (c : LogCall) :
    (u.call c).log.sinks = match c with
      | .configure s => (u.log.configure s).2.sinks
      | _ => u.log.sinks := by
  cases c with
  | configure s => rfl
  | setRun id => exact (setRun_keeps u.log id).2.2.1
  | clearRun => rfl
  | getLogger name => rfl
  | event time n e =>
      simp only [LogUse.call]
      split
      · exact (event_keeps u.log _ time e).2.2.1
      · rfl
  | message time source rank text =>
      exact (message_keeps u.log time source rank text).2.2.1

theorem inForce_call
    (h : InForce o calls (after o calls)) (c : LogCall) :
    InForce o (calls ++ [c]) ((after o calls).call c) := by
  have hstanding := standing_after o (calls ++ [c])
  have hfiles : FindsFiles ((after o calls).call c).log.outlets.tree
      (outputsInForce o calls) :=
    fun output houtput place hplace =>
      (content_call h c place).2 _ (h.findsFiles output houtput place hplace)
  have hsinks := sinks_call (after o calls) c
  rw [after_concat] at hstanding
  refine ⟨hstanding, ?_, ?_⟩
  · rw [hsinks, levelInForce_concat, outputsInForce_concat]
    cases c with
    | configure s => exact (configure_spec (after o calls).log s).1.sinks_eq
    | _ => exact h.sinks_eq
  · rw [outputsInForce_concat]
    cases c with
    | configure s => exact (configure_spec (after o calls).log s).1.findsFiles
    | _ => exact hfiles

/-- The outputs that are in force after some calls. -/
theorem inForce_after
    (o : Outlets) (calls : List LogCall) :
    InForce o calls (after o calls) := by
  induction calls using List.reverseRecOn with
  | nil =>
      exact ⟨rfl, rfl, by rintro output ⟨⟩⟩
  | append_singleton calls c ih =>
      rw [after_concat]
      exact inForce_call ih c

/-- What a file holds after some calls: what it held before, and then the lines of all
calls in order. -/
theorem content_after
    (o : Outlets) (calls : List LogCall) (place : List String) :
    (after o calls).log.outlets.tree.content place =
      o.tree.content place ++ bytesOfLines (linesOf o place calls) := by
  induction calls using List.reverseRecOn with
  | nil =>
      exact (List.append_nil _).symm
  | append_singleton calls c ih =>
      rw [after_concat, (content_call (inForce_after o calls) c place).1, ih,
        List.append_assoc, linesOf_concat,
        bytesOfLines_append]

end Calls

end Log

namespace Log

section Lines

/-- After any calls a file holds what it held before and then, call by call, the lines of
the outputs in force.  These are the outputs of the latest configuration, up to the first
that could not be opened; those of earlier ones write nothing more.  What is logged
through a logger that goes by this configuration is heard from its level on.  Lines name
the run that is on. -/
theorem writes_lines_of_outputs
    (o : Outlets) (calls : List LogCall) :
    (∀ place : List String, (after o calls).log.outlets.tree.content place =
      o.tree.content place ++ bytesOfLines (linesOf o place calls)) ∧
    (∀ (place : List String) (c : LogCall), linesOfCall o place calls c = [] ∨
      ∃ output ∈ outputsInForce o calls, output.destination.target = .file place) ∧
    (∀ s : LogSettings, outputsInForce o (calls ++ [.configure s]) =
      (after o calls).log.opened s ∧
      ∃ rest : List LogOutput, s.outputs = (after o calls).log.opened s ++ rest ∧
        StoppedBefore rest ((after o calls).log.configure s)) ∧
    (∀ (n : Nat) (name : Option String) (time : String) (e : Event),
      IsCurrent calls n name →
      (LogCall.event time n e).heard? (standingAfter o calls) =
        if (levelInForce calls).rank ≤ e.level.rank ∧ e.clash? true = none then
          some (e.level.rank, .ofEvent name e ⟨time, runInForce o calls⟩)
        else none) ∧
    (∀ id : String, ((after o calls).log.setRun (some id)).1 =
      if id = "" then ((after o calls).log.setRun none).1 else id) ∧
    (∀ (source : Option String) (e : Event) (time : String),
      (LogEntry.ofEvent source e ⟨time, runInForce o calls⟩).get? "run_id" =
        ((runInForce o calls).map Value.text).or (e.fields.reverse.lookup "run_id")) ∧
    ∀ level text time : String,
      (LogEntry.ofMessage level text ⟨time, runInForce o calls⟩).get? "run_id" =
      (runInForce o calls).map Value.text := by
  refine ⟨content_after o calls, fun place c => linesOfCall_eq_nil_or o place calls c,
    fun s => ⟨outputsInForce_concat o calls (.configure s), (configure_spec _ s).2⟩,
    fun n name time e hcurrent => heard?_event_of_current hcurrent o time e, fun id => ?_,
    fun source e time => ?_, fun level text time => ?_⟩
  · by_cases hid : id = ""
    · simp [setRun, hid, Option.filter]
    · simp [setRun, hid, Option.filter]
  · exact LogEntry.get?_ofEvent_run source e _
  · exact LogEntry.get?_ofMessage_run level text _

/-- A logger without a name, and one that is obtained under the second of two
configurations. -/
theorem writes_lines_under_second_configuration :
    let file : LogOutput := { format := .json, destination := .file "/a.log" }
    let e : Event := ⟨.info, "e", []⟩
    let calls : List LogCall := [.getLogger none,
      .configure { level := .warning, outputs := [file] },
      .configure { level := .debug, outputs := [file] }, .getLogger (some "y")]
    let logged := calls ++ [.event "t" 0 e, .event "t" 1 e]
    (IsCurrent calls 0 none ∧ IsCurrent calls 1 (some "y")) ∧
    ((LogCall.event "t" 1 e).heard? (standingAfter { tree := ⟨[]⟩ } calls) =
      some (20, .ofEvent (some "y") e ⟨"t", none⟩)) ∧
    (after { tree := ⟨[]⟩ } logged).log.outlets.tree.content ["a.log"] =
      bytesOfLines [file.format.line (.ofEvent none e ⟨"t", none⟩),
        file.format.line (.ofEvent (some "y") e ⟨"t", none⟩)] := by
  intro file e calls logged
  have hnone : IsCurrent calls 0 none :=
    ⟨[.getLogger none, .configure { level := .warning, outputs := [file] }],
      [.getLogger (some "y")], _, _, rfl,
      by simp [LogCall.settings?], rfl, Or.inl rfl⟩
  have hnamed : IsCurrent calls 1 (some "y") :=
    ⟨[.getLogger none, .configure { level := .warning, outputs := [file] }],
      [.getLogger (some "y")], _, _, rfl,
      by simp [LogCall.settings?], rfl, Or.inr (by decide)⟩
  obtain ⟨-, -, -, hheard, -⟩ := writes_lines_of_outputs { tree := ⟨[]⟩ } calls
  obtain ⟨hcontent, -⟩ := writes_lines_of_outputs { tree := ⟨[]⟩ } logged
  refine ⟨⟨hnone, hnamed⟩, hheard 1 (some "y") "t" e hnamed,
    (hcontent ["a.log"]).trans ?_⟩
  decide +kernel

/-- An output that is listed behind one that cannot be opened gets nothing, nor does it
get what is logged through a logger of an earlier configuration with a higher level; a
message about waiting is written whatever the level of the log is, and a line can name a
run although none was set. -/
theorem listed_output_gets_nothing :
    let file : LogOutput :=
      { format := .json, destination := .file "/a.log", level := some .debug }
    let e : Event := ⟨.info, "e", []⟩
    let named : Event := ⟨.info, "e", [("run_id", .text "x")]⟩
    let first : List LogCall :=
      [.configure { outputs := [{ destination := .file "/d" }, file] },
        .getLogger none, .event "t" 0 e]
    let second : List LogCall := [.configure { level := .warning, outputs := [file] },
      .getLogger (some "l"),
      .configure { level := .debug, outputs := [file] }, .event "t" 0 e]
    let third : List LogCall := [.configure { level := .error, outputs := [file] },
      .message "t" "asyncio" 30 "m"]
    let fourth : List LogCall := [.configure { outputs := [file] }, .getLogger none,
      .event "t" 0 named]
    (after { tree := ⟨[(["d"], .folder)]⟩ } first).log.outlets.tree.content ["a.log"] =
      [] ∧
    (after { tree := ⟨[]⟩ } second).log.outlets.tree.content ["a.log"] = [] ∧
    ((after { tree := ⟨[]⟩ } third).log.outlets.tree.content ["a.log"] =
      bytesOfLines [file.format.line (.ofMessage "warning" "m" ⟨"t", none⟩)] ∧
        30 < LogLevel.error.rank) ∧
    ((after { tree := ⟨[]⟩ } fourth).log.outlets.tree.content ["a.log"] =
      bytesOfLines [file.format.line (.ofEvent none named ⟨"t", none⟩)] ∧
      (LogEntry.ofEvent none named ⟨"t", none⟩).get? "run_id" = some (.text "x")) := by
  intro file e named first second third fourth
  refine ⟨by decide +kernel, by decide +kernel,
    ⟨by decide +kernel, by decide⟩, by decide +kernel, rfl⟩

end Lines

end Log

end HdlLint
