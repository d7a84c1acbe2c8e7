import HdlLint.Proofs.Diagnostic.LocatedNumbers
import HdlLint.Proofs.Log.WrittenLines
import HdlLint.Proofs.Text.JoinedLines
import HdlLint.Proofs.Value.Equality

/-!
# Outputs of JSON lines are read back

An output of JSON lines holds one line for each entry that it takes.  The lines are
printable ASCII, so no text of an entry can end a line or begin one: what was written is
split into its lines again, and each of them is read as the entry.

* `written_call`, `written_after`: what calls add to a stream or a file to which only JSON
  lines are written.
* `readJsonLines?_bytesOfLines`: lines are read back.
* `hasScalarFields_of_mem_read`: what is logged about a transcript, whatever texts stand
  in it.
* `jsonLines_tell_entries`: what an output of JSON lines holds after some calls.
-/

namespace HdlLint

open Value.Json (IsPlain)

namespace Log

open LogCall (withHistory)

/-- The entries that a call adds to a stream or a file: one for each output in force that
writes to it and takes the rank. -/
def entriesOfCall (o : Outlets) (target : LogTarget) (before : List LogCall)
    (c : LogCall) : List LogEntry :=
  match c.heard? (standingAfter o before) with
  | some (rank, entry) =>
    ((outputsInForce o before).filter fun output =>
      output.destination.target = target ∧ output.least (levelInForce before) ≤ rank).map
        fun _ => entry.written
  | none => []

/-- The entries that calls add when some others came before them. -/
def entriesOf (o : Outlets) (target : LogTarget) (before calls : List LogCall) :
    List LogEntry :=
  (withHistory before calls).flatMap fun x => entriesOfCall o target x.1 x.2

/-- A call writes nothing but JSON lines to a stream or a file: all outputs that write to
it have this format.  For the error stream there is an output at all, since it gets plain
texts otherwise; for the standard output the call does not print an event. -/
structure WritesJson (o : Outlets) (target : LogTarget) (before : List LogCall)
    (c : LogCall) : Prop where
  format_eq : ∀ output ∈ outputsInForce o before,
    output.destination.target = target → output.format = .json
  someOutput : target = .errorStream → outputsInForce o before ≠ []
  notPrinted : target = .outputStream → ¬ c.IsPrinted (standingAfter o before)

/-- While some calls are made, nothing but JSON lines is written to a stream or a file. -/
def OnlyJson (o : Outlets) (target : LogTarget) (before calls : List LogCall) : Prop :=
  ∀ x ∈ withHistory before calls, WritesJson o target x.1 x.2

/-- The lines of a text as values; nothing follows the last line end. -/
def readJsonLines? (bytes : List UInt8) : Option (List Value) :=
  (Text.splitLines (Text.Utf8.decodeLossy bytes)).dropLast.mapM Value.ofJson?

end Log

/-- The fields of an event that is logged are scalars. -/
def LogCall.HasScalarFields : LogCall → Prop
  | .event _ _ e => e.HasScalarFields
  | _ => True

namespace Log

open LogCall (withHistory)

section Calls

variable {o : Outlets} {u : LogUse} {target : LogTarget}
variable {before calls : List LogCall} {c : LogCall}

/-- A call that is not heard writes nothing but what it prints. -/
theorem written_of_heard?_eq_none
    (h : c.heard? u.standing = none)
    (hprinted : target = .outputStream → ¬ c.IsPrinted u.standing) :
    (u.call c).log.outlets.written target = u.log.outlets.written target := by
  rcases outlets_of_heard? h with hsame | ⟨hprinter, line, hline⟩ | ⟨s, rfl⟩
  · rw [hsame]
  · rw [hline]
    cases target with
    | errorStream => rfl
    | outputStream => exact absurd hprinter (hprinted rfl)
    | file place => rfl
  · obtain ⟨houtput, herrors⟩ := streams_openOutputs
      { u.log with level := s.level, gate := .filter s.level, sinks := [] }
      s.level s.outputs
    cases target with
    | errorStream => exact congrArg (fun text : String => text.toUTF8.toList) herrors
    | outputStream => exact congrArg (fun text : String => text.toUTF8.toList) houtput
    | file place => exact (configure_spec u.log s).1.keeps.content_eq place

/-- What one call adds where only JSON lines are written. -/
theorem written_call
    (h : InForce o before u)
    (hjson : WritesJson o target before c) :
    (u.call c).log.outlets.written target =
      u.log.outlets.written target ++
        bytesOfLines ((entriesOfCall o target before c).map LogEntry.jsonLine) := by
  have hprinted := hjson.notPrinted
  unfold entriesOfCall
  rw [← h.standing_eq] at hprinted ⊢
  cases hentry : c.heard? u.standing with
  | none =>
      rw [written_of_heard?_eq_none hentry hprinted]
      exact (List.append_nil _).symm
  | some heard =>
      obtain ⟨rank, entry⟩ := heard
      obtain ⟨plain, hcall⟩ := call_of_heard? hentry
      have hsinks : target = .errorStream → u.log.sinks ≠ [] := by
        intro htarget
        rw [h.sinks_eq]
        exact fun hnone => hjson.someOutput htarget (List.map_eq_nil_iff.mp hnone)
      have hwritten := written_emit h.sinksFindFiles hsinks rank entry plain
      rw [h.sinks_eq, List.filter_map, List.map_map] at hwritten
      rw [hcall, hwritten, List.map_map]
      congr 2
      refine List.map_congr_left fun output houtput => ?_
      obtain ⟨hmem, htakes⟩ := List.mem_filter.mp houtput
      have hformat := hjson.format_eq output hmem (of_decide_eq_true htakes).1
      simp only [Function.comp_apply, LogOutput.sink, hformat]
      rfl

theorem entriesOf_concat
    (o : Outlets) (target : LogTarget) (before calls : List LogCall) (c : LogCall) :
    entriesOf o target before (calls ++ [c]) =
      entriesOf o target before calls ++ entriesOfCall o target (before ++ calls) c := by
  rw [entriesOf, withHistory_concat, List.flatMap_append]
  simp [entriesOf]

/-- What calls add where only JSON lines are written: a line for each of their entries. -/
theorem written_after
    (hjson : OnlyJson o target before calls) :
    (after o (before ++ calls)).log.outlets.written target =
      (after o before).log.outlets.written target ++
        bytesOfLines ((entriesOf o target before calls).map LogEntry.jsonLine) := by
  induction calls using List.reverseRecOn with
  | nil =>
      rw [List.append_nil]
      exact (List.append_nil _).symm
  | append_singleton calls c ih =>
      rw [OnlyJson, withHistory_concat] at hjson
      have hearlier := ih fun x hx => hjson x (List.mem_append_left _ hx)
      have hlast := hjson _ (List.mem_append_right _ (List.mem_singleton.mpr rfl))
      rw [← List.append_assoc, after_concat,
        written_call (inForce_after o (before ++ calls)) hlast, hearlier,
        List.append_assoc, ← bytesOfLines_append, ← List.map_append, entriesOf_concat]

end Calls

section Reading

variable {entries : List LogEntry} {lines : List String}

theorem decodeLossy_bytesOfLines
    (lines : List String) :
    Text.Utf8.decodeLossy (bytesOfLines lines) =
      String.ofList (lines.flatMap fun line => line.toList ++ ['\n']) := by
  have hbytes : bytesOfLines lines =
      (String.ofList (lines.flatMap fun line =>
        line.toList ++ ['\n'])).toUTF8.data.toList := by
    rw [Text.Utf8.toList_data_toUTF8, String.toList_ofList,
      List.flatMap_assoc, bytesOfLines]
    simp only [Text.Utf8.toList_toUTF8, String.toList_append]
    rfl
  rw [hbytes, Text.Utf8.decodeLossy_toUTF8]

/-- Lines without line ends in them are what stands between the line ends. -/
theorem splitLines_ended
    (h : ∀ line ∈ lines, '\n' ∉ line.toList ∧ '\r' ∉ line.toList) :
    Text.splitLines (String.ofList (lines.flatMap fun line => line.toList ++ ['\n'])) =
      lines ++ [""] := by
  rw [Text.splitLines, String.toList_ofList]
  induction lines with
  | nil => rfl
  | cons line lines ih =>
      obtain ⟨hnewline, hreturn⟩ := h line List.mem_cons_self
      have hlast : line.toList.getLast? ≠ some '\r' :=
        fun hlast => hreturn (List.mem_of_getLast? hlast)
      obtain ⟨w, ws, hs, hpieces⟩ := Text.linePieces_append
        (s := '\n' :: lines.flatMap fun line => line.toList ++ ['\n'])
        hnewline (fun hr => absurd hr hlast)
      have hend :=
        Text.linePieces_lineEnd .lf (lines.flatMap fun line => line.toList ++ ['\n'])
      obtain ⟨rfl, rfl⟩ := List.cons.inj (hs.symm.trans hend)
      rw [List.flatMap_cons, List.append_assoc, List.singleton_append, hpieces,
        List.append_nil, List.map_cons,
        String.ofList_toList, ih fun l hl => h l (List.mem_cons_of_mem _ hl),
          List.cons_append]

theorem lineEnd_not_mem_jsonLine
    {entry : LogEntry}
    (h : IsPlain (.map entry)) :
    '\n' ∉ entry.jsonLine.toList ∧ '\r' ∉ entry.jsonLine.toList := by
  have hprintable := Value.Json.isPrintable_write (.map entry) 0 h
  exact ⟨fun hmem => absurd (hprintable _ hmem) (by decide),
    fun hmem => absurd (hprintable _ hmem) (by decide)⟩

/-- Lines of plain entries are read back: none is split, merged with another or made
up. -/
theorem readJsonLines?_bytesOfLines
    (h : ∀ entry ∈ entries, IsPlain (.map entry)) :
    readJsonLines? (bytesOfLines (entries.map LogEntry.jsonLine)) =
      some (entries.map Value.map) := by
  have hlines : ∀ line ∈ entries.map LogEntry.jsonLine,
      '\n' ∉ line.toList ∧ '\r' ∉ line.toList := by
    intro line hline
    obtain ⟨entry, hentry, rfl⟩ := List.mem_map.mp hline
    exact lineEnd_not_mem_jsonLine (h entry hentry)
  rw [readJsonLines?, decodeLossy_bytesOfLines,
    splitLines_ended hlines, List.dropLast_concat]
  clear hlines
  induction entries with
  | nil => rfl
  | cons entry entries ih =>
      have hread := (Value.ofJson?_toJson (h entry List.mem_cons_self)).1
      have hrest := ih fun e he => h e (List.mem_cons_of_mem _ he)
      simp only [List.map_cons, List.mapM_cons, LogEntry.jsonLine, hread,
        Option.bind_eq_bind, Option.bind_some] at hrest ⊢
      rw [hrest]
      rfl

end Reading

section Transcripts

variable {scope : PathScope} {transcript : String} {e : Event}

/-- What is logged about a line has scalars as fields, whatever stands in the line, and no
field has a name that is used for something else. -/
theorem hasScalarFields_of_mem_read
    (h : e ∈ (Transcript.read scope transcript).2) :
    e.HasScalarFields ∧ (∀ f ∈ e.fields, f.1 ∉ LogEntry.reservedNames) ∧
      e.clash? true = none := by
  obtain ⟨result, hresult, he⟩ := List.mem_flatMap.mp h
  obtain ⟨line, -, rfl⟩ := List.mem_map.mp hresult
  unfold Transcript.readLine at he
  split_ifs at he
  · cases he
  · split at he
    · obtain rfl := List.mem_singleton.mp he
      refine ⟨?_, by simp [Transcript.unmatchedEvent, LogEntry.reservedNames,
        LogEntry.internalNames], rfl⟩
      simp [Transcript.unmatchedEvent, Event.HasScalarFields, Value.IsScalar]
    · rename_i f _
      cases hfound : f.diagnostic? scope with
      | none =>
          rw [hfound] at he
          cases he
      | some d =>
          rw [hfound] at he
          obtain rfl := List.mem_singleton.mp he
          refine ⟨?_, by simp [Transcript.foundEvent, LogEntry.reservedNames,
            LogEntry.internalNames], rfl⟩
          simp [Transcript.foundEvent, Event.HasScalarFields, Value.IsScalar,
            (fewDigits_of_diagnostic? hfound).1]

end Transcripts

section Outputs

variable {o : Outlets} {target : LogTarget} {before calls : List LogCall}

theorem isPlain_of_heard?
    {f : LogStanding} {c : LogCall} {rank : Nat} {entry : LogEntry}
    (h : c.heard? f = some (rank, entry))
    (hscalar : c.HasScalarFields) :
    IsPlain (.map entry.written) := by
  obtain ⟨time, n, e, logger, rfl, -, -, rfl, rfl⟩ |
    ⟨time, source, text, rfl, -, rfl⟩ := heard?_cases h
  · exact LogEntry.isPlain_written_ofEvent hscalar logger.source _
  · exact LogEntry.isPlain_written_ofMessage _ text _

theorem isPlain_of_mem_entriesOf
    {entry : LogEntry}
    (hscalar : ∀ c ∈ calls, c.HasScalarFields)
    (h : entry ∈ entriesOf o target before calls) :
    IsPlain (.map entry) := by
  obtain ⟨⟨history, c⟩, hcall, hentry⟩ := List.mem_flatMap.mp h
  unfold entriesOfCall at hentry
  split at hentry
  · rename_i rank e hheard
    obtain ⟨output, -, rfl⟩ := List.mem_map.mp hentry
    exact isPlain_of_heard? hheard (hscalar c (mem_of_mem_withHistory hcall))
  · cases hentry

/-- The only output that writes to a target gives it one entry for each event that it
takes. -/
theorem entriesOfCall_event
    {history : List LogCall} {n : Nat} {name : Option String}
    {output : LogOutput} {e : Event}
    (hcurrent : IsCurrent history n name)
    (honly : ((outputsInForce o history).filter fun output =>
      output.destination.target = target) = [output])
    (hlog : (levelInForce history).rank ≤ e.level.rank)
    (houtput : output.least (levelInForce history) ≤ e.level.rank)
    (hclash : e.clash? true = none) (time : String) :
    entriesOfCall o target history (.event time n e) =
      [(LogEntry.ofEvent name e ⟨time, runInForce o history⟩).written] := by
  have htakes : ((outputsInForce o history).filter fun output =>
      output.destination.target = target ∧
        output.least (levelInForce history) ≤ e.level.rank) = [output] := by
    simp only [Bool.decide_and, ← List.filter_filter,
      List.filter_comm (p := fun output => decide (_ = target)), honly]
    simp [houtput]
  simp only [entriesOfCall, heard?_event_of_current hcurrent,
    if_pos (And.intro hlog hclash), htakes]
  rfl

/-- Where only JSON lines are written, any calls add one line for each entry that an
output takes, and nothing else: what they add is read back as just these entries.  A lone
output takes one entry for each event of its level that is logged through a logger of the
latest configuration, and the entry tells the text of the event, its level, the time, the
run that is on, and all fields whose names are not reserved.  What is logged about a
transcript is of this kind, whatever texts stand in it. -/
theorem jsonLines_tell_entries
    (o : Outlets) (target : LogTarget) (before calls : List LogCall)
    (hjson : OnlyJson o target before calls)
    (hscalar : ∀ c ∈ calls, c.HasScalarFields) :
    (∃ added : List UInt8,
      (after o (before ++ calls)).log.outlets.written target =
        (after o before).log.outlets.written target ++ added ∧
      readJsonLines? added = some ((entriesOf o target before calls).map Value.map)) ∧
    (∀ (history : List LogCall) (output : LogOutput) (n : Nat) (name : Option String)
      (time : String) (e : Event),
      IsCurrent history n name →
      ((outputsInForce o history).filter fun output =>
        output.destination.target = target) = [output] →
      (levelInForce history).rank ≤ e.level.rank →
        output.least (levelInForce history) ≤ e.level.rank →
      e.clash? true = none →
      ∃ entry : LogEntry, entriesOfCall o target history (.event time n e) = [entry] ∧
        entry.Tells name e ⟨time, runInForce o history⟩) ∧
    ∀ (scope : PathScope) (transcript : String),
      ∀ e ∈ (Transcript.read scope transcript).2,
      e.HasScalarFields ∧ (∀ f ∈ e.fields, f.1 ∉ LogEntry.reservedNames) ∧
        e.clash? true = none := by
  refine ⟨⟨_, written_after hjson, ?_⟩, ?_, fun _ _ _ => hasScalarFields_of_mem_read⟩
  · exact readJsonLines?_bytesOfLines fun entry hentry =>
      isPlain_of_mem_entriesOf hscalar hentry
  · intro history output n name time e hcurrent honly hlog houtput hclash
    exact ⟨_, entriesOfCall_event hcurrent honly hlog houtput hclash time,
      LogEntry.tells_ofEvent name e _⟩

/-- A transcript with quotes, a control character, a line that looks like one of the log,
and a character of two units. -/
theorem jsonLines_of_hostile_transcript :
    let transcript := "\x22\x1b\r\n\x7b\x22event\x22: 1\x7d\n%Warning-X: 😀.v:2:1: m"
    let file : LogOutput := { format := .json, destination := .file "/a.log" }
    let before : List LogCall :=
      [.getLogger none, .configure { level := .debug, outputs := [file] },
        .setRun (some "7")]
    let events := (Transcript.read ⟨true, none, .host⟩ transcript).2
    let calls := events.map (LogCall.event "t" 0)
    let stamp : String → LogEntry := fun level =>
      [(.text "level", .text level), (.text "timestamp", .text "t"),
        (.text "run_id", .text "7")]
    (OnlyJson { tree := ⟨[]⟩ } (.file ["a.log"]) before calls ∧
      ∀ c ∈ calls, c.HasScalarFields) ∧
    (∃ added : List UInt8,
      (after { tree := ⟨[]⟩ } (before ++ calls)).log.outlets.written (.file ["a.log"]) =
        added ∧
      readJsonLines? added = some
        [.map ([(.text "line", .text "\x22\x1b"),
          (.text "event", .text "failed to parse error")] ++ stamp "warning"),
          .map ([(.text "line", .text "\x7b\x22event\x22: 1\x7d"),
            (.text "event", .text "failed to parse error")] ++
            stamp "warning"),
          .map ([(.text "severity", .text "warning"), (.text "path", .text "😀.v"),
            (.text "line", .int 1),
            (.text "code", .text "X"), (.text "event", .text "diagnostic parsed")] ++
              stamp "debug")]) ∧
    IsCurrent before 0 none ∧ ∀ e ∈ events, ∃ entry : LogEntry,
      entriesOfCall { tree := ⟨[]⟩ } (.file ["a.log"]) before (.event "t" 0 e) = [entry] ∧
        entry.Tells none e ⟨"t", some "7"⟩ := by
  intro transcript file before events calls stamp
  have hjson : OnlyJson { tree := ⟨[]⟩ } (.file ["a.log"]) before calls := by
    intro x hx
    have hformat : ∀ x ∈ withHistory before calls,
        ∀ output ∈ outputsInForce { tree := ⟨[]⟩ } x.1,
        output.destination.target = .file ["a.log"] → output.format = .json := by
      decide +kernel
    exact ⟨hformat x hx, by rintro ⟨⟩, by rintro ⟨⟩⟩
  have hscalar : ∀ c ∈ calls, c.HasScalarFields := by
    intro c hc
    obtain ⟨e, he, rfl⟩ := List.mem_map.mp hc
    exact (hasScalarFields_of_mem_read he).1
  have hcurrent : IsCurrent before 0 none :=
    ⟨[.getLogger none], [.setRun (some "7")], _, _,
      rfl, by simp [LogCall.settings?], rfl, Or.inl rfl⟩
  obtain ⟨⟨added, hadded, hread⟩, hlone, htranscript⟩ :=
    jsonLines_tell_entries _ _ _ _ hjson hscalar
  have hempty : (after { tree := ⟨[]⟩ } before).log.outlets.written (.file ["a.log"]) =
      [] := by
    decide +kernel
  rw [hempty, List.nil_append] at hadded
  refine ⟨⟨hjson, hscalar⟩, ⟨added, hadded, hread.trans (congrArg some ?_)⟩,
    hcurrent, fun e he => ?_⟩
  · decide +kernel
  · have honly : ((outputsInForce { tree := ⟨[]⟩ } before).filter fun output =>
        output.destination.target = .file ["a.log"]) = [file] := by
      decide +kernel
    have hlevel : LogLevel.debug.rank ≤ e.level.rank := by
      cases e.level <;> decide
    exact hlone before file 0 none "t" e hcurrent honly hlevel hlevel
      (htranscript _ _ e he).2.2

/-- A field with the name that the log uses for the level is lost. -/
theorem field_named_level_is_lost :
    let file : LogOutput := { format := .json, destination := .file "/a.log" }
    let e : Event := ⟨.info, "e", [("level", .text "x")]⟩
    let calls : List LogCall := [.configure { outputs := [file] },
      .getLogger none, .event "t" 0 e]
    readJsonLines? ((after { tree := ⟨[]⟩ } calls).log.outlets.tree.content ["a.log"]) =
      some [.map [(.text "level", .text "info"), (.text "event", .text "e"),
        (.text "timestamp", .text "t")]] := by
  intro file e calls
  decide +kernel

end Outputs

end Log
end HdlLint
