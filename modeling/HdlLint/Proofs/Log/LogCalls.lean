import HdlLint.Proofs.Log.OpenedOutputs

/-!
# Calls of the log

The log is set up, told of runs, asked for loggers, and given events and messages, in any
order and any number of times.  What is logged meets what is in force at that moment: the
level and the run of the log, and the gate of the logger.  A logger that was obtained by
name keeps the gate of its own moment.

* `event_cases`: what becomes of an event: it is printed, given to the outputs, or
  dropped.
* `standing_after`: what is in force after some calls.
* `heard?_event_of_current`: a logger that goes by the latest configuration lets all
  events of its level through.
-/

namespace HdlLint

/-- What is done with the log.  An event is logged through the logger that was obtained as
the one of that number. -/
inductive LogCall where
  | configure (s : LogSettings)
  | setRun (id : Option String)
  | clearRun
  | getLogger (name : Option String)
  | event (time : String) (logger : Nat) (e : Event)
  | message (time source : String) (rank : Nat) (text : String)

/-- What is in force where something is logged. -/
structure LogStanding where
  level : LogLevel
  gate : LogGate
  run : Option String
  loggers : List Logger

/-- A gate hands an event on to the outputs of a log with this level. -/
def LogGate.hands (level : LogLevel) (e : Event) : LogGate → Bool
  | .printer => false
  | .filter least =>
      least.rank ≤ e.level.rank && level.rank ≤ e.level.rank && (e.clash? true).isNone

namespace LogCall

/-- Calls that come after some others, each with all those before it. -/
def withHistory (before : List LogCall) : List LogCall → List (List LogCall × LogCall)
  | [] => []
  | c :: rest => (before, c) :: withHistory (before ++ [c]) rest

/-- What the latest call gives that gives anything, as seen with the calls before it. -/
def latest? {β : Type} (f : List LogCall → LogCall → Option β) (calls : List LogCall) :
    Option β :=
  (withHistory [] calls).reverse.findSome? fun x => f x.1 x.2

/-- The rank from which messages of a source are heard in a log with this level. -/
def heardFrom (level : LogLevel) (source : String) : Nat :=
  if source = Log.waitingSource || source.startsWith (Log.waitingSource ++ ".") then
    Log.waitingLevel.rank
  else level.rank

/-- The entry of an event or a message with its rank, if it goes to the outputs. -/
def heard? (f : LogStanding) : LogCall → Option (Nat × LogEntry)
  | .event time n e =>
    match f.loggers[n]? with
    | some logger =>
      if (logger.gate f.gate).hands f.level e then
        some (e.level.rank, .ofEvent logger.source e ⟨time, f.run⟩)
      else none
    | none => none
  | .message time source rank text =>
    if heardFrom f.level source ≤ rank then
      some (rank, .ofMessage (Log.rankName rank) text ⟨time, f.run⟩)
    else none
  | _ => none

/-- An event that is not for the outputs but for the printer. -/
def IsPrinted (f : LogStanding) : LogCall → Prop
  | .event _ n _ => ∃ logger ∈ f.loggers[n]?, logger.gate f.gate = .printer
  | _ => False

/-- The settings with which a call sets up the log. -/
def settings? : LogCall → Option LogSettings
  | .configure s => some s
  | _ => none

end LogCall

/-- The log, and the loggers that have been obtained, in the order of their calls. -/
structure LogUse where
  log : Log
  loggers : List Logger := []

namespace LogUse

/-- The log and the loggers after a call. -/
def call (u : LogUse) : LogCall → LogUse
  | .configure s => { u with log := (u.log.configure s).2 }
  | .setRun id => { u with log := (u.log.setRun id).2 }
  | .clearRun => { u with log := u.log.clearRun }
  | .getLogger name => { u with loggers := u.loggers ++ [.obtained u.log.gate name] }
  | .event time n e =>
    match u.loggers[n]? with
    | some logger => { u with log := (u.log.event logger time e).2 }
    | none => u
  | .message time source rank text =>
      { u with log := u.log.message time source rank text }

def standing (u : LogUse) : LogStanding :=
  ⟨u.log.level, u.log.gate, u.log.run, u.loggers⟩

end LogUse

namespace Log

open LogCall (withHistory latest?)

/-- The log and the loggers after some calls. -/
def after (o : Outlets) (calls : List LogCall) : LogUse :=
  calls.foldl LogUse.call { log := { outlets := o } }

/-- The level of the latest configuration. -/
def levelInForce (calls : List LogCall) : LogLevel :=
  ((latest? (fun _ c => c.settings?) calls).map LogSettings.level).getD .warning

/-- The gate of the latest configuration. -/
def gateInForce (calls : List LogCall) : LogGate :=
  ((latest? (fun _ c => c.settings?) calls).map fun s => .filter s.level).getD .printer

/-- The run that was set, unless it has ended since. -/
def runInForce (o : Outlets) (calls : List LogCall) : Option String :=
  (latest? (fun before c => match c with
    | .setRun id => some (some ((after o before).log.setRun id).1)
    | .clearRun => some none
    | _ => none) calls).getD none

/-- What loggers were asked for: the name of each, and the gate that was in force then. -/
def requestsOf (calls : List LogCall) : List (LogGate × Option String) :=
  (withHistory [] calls).filterMap fun x => match x.2 with
    | .getLogger name => some (gateInForce x.1, name)
    | _ => none

/-- What is in force after some calls. -/
def standingAfter (o : Outlets) (calls : List LogCall) : LogStanding :=
  ⟨levelInForce calls, gateInForce calls, runInForce o calls,
    (requestsOf calls).map fun r => .obtained r.1 r.2⟩

/-- A logger of a name, or of none, that goes by the latest configuration: it has no name,
or was obtained since then. -/
def IsCurrent (calls : List LogCall) (n : Nat) (name : Option String) : Prop :=
  ∃ (before since : List LogCall) (s : LogSettings) (gate : LogGate),
    calls = before ++ .configure s :: since ∧ (∀ c ∈ since, c.settings? = none) ∧
    (requestsOf calls)[n]? = some (gate, name) ∧
    (name.filter (· ≠ "") = none ∨ (requestsOf before).length ≤ n)

section History

variable {β : Type} {before calls : List LogCall} {c : LogCall}

theorem withHistory_concat
    (before calls : List LogCall) (c : LogCall) :
    withHistory before (calls ++ [c]) =
      withHistory before calls ++ [(before ++ calls, c)] := by
  induction calls generalizing before with
  | nil =>
      simp [withHistory]
  | cons d calls ih =>
      simp [withHistory, ih]

theorem latest?_concat
    (f : List LogCall → LogCall → Option β) (calls : List LogCall) (c : LogCall) :
    latest? f (calls ++ [c]) = (f calls c).or (latest? f calls) := by
  rw [latest?, withHistory_concat, List.reverse_append, List.reverse_singleton,
    List.singleton_append,
    List.findSome?_cons]
  simp only [List.nil_append]
  cases f calls c <;> rfl

theorem mem_of_mem_withHistory
    {history : List LogCall}
    (h : (history, c) ∈ withHistory before calls) :
    c ∈ calls := by
  induction calls generalizing before with
  | nil => cases h
  | cons d calls ih =>
      rcases List.mem_cons.mp h with heq | hrest
      · cases heq
        exact List.mem_cons_self
      · exact List.mem_cons_of_mem _ (ih hrest)

theorem after_concat
    (o : Outlets) (calls : List LogCall) (c : LogCall) :
    after o (calls ++ [c]) = (after o calls).call c := by
  rw [after, List.foldl_append]
  rfl

theorem levelInForce_concat
    (calls : List LogCall) (c : LogCall) :
    levelInForce (calls ++ [c]) = match c with
      | .configure s => s.level
      | _ => levelInForce calls := by
  rw [levelInForce, latest?_concat]
  cases c <;> rfl

theorem gateInForce_concat
    (calls : List LogCall) (c : LogCall) :
    gateInForce (calls ++ [c]) = match c with
      | .configure s => .filter s.level
      | _ => gateInForce calls := by
  rw [gateInForce, latest?_concat]
  cases c <;> rfl

theorem runInForce_concat
    (o : Outlets) (calls : List LogCall) (c : LogCall) :
    runInForce o (calls ++ [c]) = match c with
      | .setRun id => some ((after o calls).log.setRun id).1
      | .clearRun => none
      | _ => runInForce o calls := by
  rw [runInForce, latest?_concat]
  cases c <;> rfl

theorem requestsOf_concat
    (calls : List LogCall) (c : LogCall) :
    requestsOf (calls ++ [c]) = match c with
      | .getLogger name => requestsOf calls ++ [(gateInForce calls, name)]
      | _ => requestsOf calls := by
  rw [requestsOf, withHistory_concat, List.filterMap_append]
  cases c <;> simp [requestsOf]

end History

section Events

variable {log : Log}

/-- What is heard is an event that the gate of its logger hands on, or a message. -/
theorem heard?_cases
    {f : LogStanding} {c : LogCall} {rank : Nat} {entry : LogEntry}
    (h : c.heard? f = some (rank, entry)) :
    (∃ (time : String) (n : Nat) (e : Event) (logger : Logger),
      c = .event time n e ∧ f.loggers[n]? = some logger ∧
        (logger.gate f.gate).hands f.level e = true ∧
        rank = e.level.rank ∧ entry = .ofEvent logger.source e ⟨time, f.run⟩) ∨
    ∃ time source text : String,
      c = .message time source rank text ∧ LogCall.heardFrom f.level source ≤ rank ∧
        entry = .ofMessage (rankName rank) text ⟨time, f.run⟩ := by
  cases c with
  | event time n e =>
      simp only [LogCall.heard?] at h
      split at h
      · rename_i logger hlogger
        split at h
        · rename_i hhands
          cases h
          exact Or.inl ⟨time, n, e, logger, rfl, hlogger, hhands, rfl, rfl⟩
        · cases h
      · cases h
  | message time source rank text =>
      simp only [LogCall.heard?] at h
      split at h
      · rename_i hrank
        cases h
        exact Or.inr ⟨time, source, text, rfl, hrank, rfl⟩
      · cases h
  | _ => cases h

/-- What becomes of an event: it is given to the outputs, printed, or dropped. -/
theorem event_cases
    (log : Log) (logger : Logger) (time : String) (e : Event) :
    ((logger.gate log.gate).hands log.level e = true ∧ ∃ plain : String,
      (log.event logger time e).2 =
      log.emit e.level.rank (.ofEvent logger.source e ⟨time, log.run⟩) plain) ∨
    ((logger.gate log.gate).hands log.level e = false ∧ logger.gate log.gate = .printer ∧
      (log.event logger time e).2 = log.print time logger.source e) ∨
    ((logger.gate log.gate).hands log.level e = false ∧
      (log.event logger time e).2 = log) := by
  unfold Log.event
  generalize logger.gate log.gate = gate
  simp only
  split
  · rename_i name hclash
    refine Or.inr (Or.inr ⟨?_, rfl⟩)
    cases gate with
    | printer => rfl
    | filter least =>
        by_cases hleast : least.rank ≤ e.level.rank
        · rw [LogGate.admits, decide_eq_true hleast] at hclash
          simp [LogGate.hands, hclash]
        · simp [LogGate.hands, hleast]
  · rename_i hclash
    cases gate with
    | printer => exact Or.inr (Or.inl ⟨rfl, rfl, rfl⟩)
    | filter least =>
        simp only [pass]
        split
        · rename_i hpasses
          have hboth := Bool.and_eq_true_iff.mp hpasses
          rw [LogGate.admits, hboth.1] at hclash
          exact Or.inl
            ⟨by simp only [LogGate.hands, hpasses, hclash, Option.isNone_none,
              Bool.and_self], _, rfl⟩
        · rename_i hfails
          exact Or.inr
            (Or.inr ⟨by simp only [LogGate.hands, Bool.eq_false_iff.mpr hfails,
              Bool.false_and], rfl⟩)

theorem event_keeps
    (log : Log) (logger : Logger) (time : String) (e : Event) :
    (log.event logger time e).2.level = log.level ∧
      (log.event logger time e).2.gate = log.gate ∧
      (log.event logger time e).2.sinks = log.sinks ∧
        (log.event logger time e).2.run = log.run := by
  rcases event_cases log logger time e with ⟨-, plain, heq⟩ | ⟨-, -, heq⟩ | ⟨-, heq⟩ <;>
    rw [heq] <;> exact ⟨rfl, rfl, rfl, rfl⟩

theorem message_keeps
    (log : Log) (time source : String) (rank : Nat) (text : String) :
    (log.message time source rank text).level = log.level ∧
      (log.message time source rank text).gate = log.gate ∧
      (log.message time source rank text).sinks = log.sinks ∧
      (log.message time source rank text).run = log.run := by
  unfold message
  split <;> exact ⟨rfl, rfl, rfl, rfl⟩

/-- Setting the run changes nothing that is written. -/
theorem setRun_keeps
    (log : Log) (id : Option String) :
    (log.setRun id).2.level = log.level ∧ (log.setRun id).2.gate = log.gate ∧
      (log.setRun id).2.sinks = log.sinks ∧ (log.setRun id).2.outlets = log.outlets := by
  unfold setRun
  split <;> exact ⟨rfl, rfl, rfl, rfl⟩

theorem run_setRun
    (log : Log) (id : Option String) :
    (log.setRun id).2.run = some (log.setRun id).1 := by
  unfold setRun
  split <;> rfl

end Events

section Standing

variable {o : Outlets} {calls before since : List LogCall} {n : Nat}
  {name : Option String}

/-- What is in force after some calls. -/
theorem standing_after
    (o : Outlets) (calls : List LogCall) :
    (after o calls).standing = standingAfter o calls := by
  induction calls using List.reverseRecOn with
  | nil =>
      rfl
  | append_singleton calls c ih =>
      have hlevel := congrArg LogStanding.level ih
      have hgate := congrArg LogStanding.gate ih
      have hrun := congrArg LogStanding.run ih
      have hloggers := congrArg LogStanding.loggers ih
      simp only [LogUse.standing, standingAfter] at hlevel hgate hrun hloggers
      rw [after_concat, standingAfter, levelInForce_concat, gateInForce_concat,
        runInForce_concat, requestsOf_concat]
      cases c with
      | configure s =>
          obtain ⟨hforce, -⟩ := configure_spec (after o calls).log s
          simp only [LogUse.standing, LogUse.call, hforce.level_eq, hforce.gate_eq,
            hforce.run_eq, hrun, hloggers]
      | setRun id =>
          obtain ⟨hlevel', hgate', -⟩ := setRun_keeps (after o calls).log id
          simp only [LogUse.standing, LogUse.call, hlevel', hgate', run_setRun,
            hlevel, hgate, hloggers]
      | clearRun =>
          simp only [LogUse.standing, LogUse.call, clearRun, hlevel, hgate, hloggers]
      | getLogger name =>
          simp only [LogUse.standing, LogUse.call, hlevel, hgate, hrun, hloggers,
            List.map_append, List.map_cons,
            List.map_nil]
      | event time n e =>
          simp only [LogUse.standing, LogUse.call]
          split
          · rename_i logger _
            obtain ⟨hlevel', hgate', -, hrun'⟩ :=
              event_keeps (after o calls).log logger time e
            simp only [hlevel', hgate', hrun', hlevel, hgate, hrun, hloggers]
          · simp only [hlevel, hgate, hrun, hloggers]
      | message time source rank text =>
          obtain ⟨hlevel', hgate', -, hrun'⟩ :=
            message_keeps (after o calls).log time source rank text
          simp only [LogUse.standing, LogUse.call, hlevel', hgate', hrun', hlevel,
            hgate, hrun, hloggers]

/-- Calls that do not set up the log: the gate stays in force, and what loggers are asked
for keeps it. -/
theorem gateInForce_append
    (h : ∀ c ∈ since, c.settings? = none) (before : List LogCall) :
    gateInForce (before ++ since) = gateInForce before ∧
      ∃ names : List (Option String),
        requestsOf (before ++ since) =
          requestsOf before ++ names.map fun name => (gateInForce before, name) := by
  induction since using List.reverseRecOn with
  | nil =>
      rw [List.append_nil]
      exact ⟨rfl, [], (List.append_nil _).symm⟩
  | append_singleton since c ih =>
      obtain ⟨hgate, names, hnames⟩ := ih fun d hd => h d (List.mem_append_left _ hd)
      have hc := h c (List.mem_append_right _ (List.mem_singleton.mpr rfl))
      rw [← List.append_assoc, gateInForce_concat, requestsOf_concat, hnames, hgate]
      cases c with
      | configure s => cases hc
      | getLogger name => exact ⟨rfl, names ++ [name], by simp⟩
      | _ => exact ⟨rfl, names, rfl⟩

theorem obtained_of_filter_eq_none
    (h : name.filter (· ≠ "") = none) (gate gate' : LogGate) :
    Logger.obtained gate name = .obtained gate' name := by
  rw [Logger.obtained, Logger.obtained, h]

theorem gate_obtained
    (gate : LogGate) (name : Option String) :
    (Logger.obtained gate name).gate gate = gate := by
  unfold Logger.obtained
  split <;> rfl

theorem ofEvent_obtained
    (gate : LogGate) (name : Option String) (e : Event) (m : LogMoment) :
    LogEntry.ofEvent (Logger.obtained gate name).source e m = .ofEvent name e m := by
  unfold Logger.obtained
  cases name with
  | none => rfl
  | some name =>
      by_cases hname : name = ""
      · simp [hname, Option.filter, Logger.source, LogEntry.ofEvent]
      · simp [hname, Option.filter, Logger.source]

/-- A logger that goes by the latest configuration has the gate of it. -/
theorem logger_of_current
    (h : IsCurrent calls n name) :
    (standingAfter o calls).loggers[n]? = some (.obtained (gateInForce calls) name) ∧
      gateInForce calls = .filter (levelInForce calls) := by
  obtain ⟨before, since, s, gate, rfl, hsince, hn, hwhen⟩ := h
  have hsplit : before ++ LogCall.configure s :: since =
      (before ++ [.configure s]) ++ since := by simp
  rw [hsplit] at hn ⊢
  obtain ⟨hgate, names, hnames⟩ := gateInForce_append hsince (before ++ [.configure s])
  have hlevel : gateInForce ((before ++ [LogCall.configure s]) ++ since) =
      .filter (levelInForce ((before ++ [LogCall.configure s]) ++ since)) := by
    rw [gateInForce, levelInForce]
    cases hlatest :
      latest? (fun _ c => c.settings?) ((before ++ [LogCall.configure s]) ++ since) with
    | some s' => rfl
    | none =>
        rw [gateInForce, hlatest, gateInForce_concat] at hgate
        cases hgate
  refine ⟨?_, hlevel⟩
  simp only [standingAfter, List.getElem?_map, hn, Option.map_some]
  rcases hwhen with hunnamed | hlater
  · exact congrArg some (obtained_of_filter_eq_none hunnamed _ _)
  · rw [hnames, requestsOf_concat, List.getElem?_append_right hlater,
      List.getElem?_map] at hn
    obtain ⟨name', -, hname⟩ := Option.map_eq_some_iff.mp hn
    obtain ⟨rfl, rfl⟩ := Prod.mk.inj hname
    rw [hgate]

/-- Through a logger that goes by the latest configuration all events of its level are
heard whose fields have names of their own. -/
theorem heard?_event_of_current
    (h : IsCurrent calls n name) (o : Outlets) (time : String) (e : Event) :
    (LogCall.event time n e).heard? (standingAfter o calls) =
      if (levelInForce calls).rank ≤ e.level.rank ∧ e.clash? true = none then
        some (e.level.rank, .ofEvent name e ⟨time, runInForce o calls⟩)
      else none := by
  obtain ⟨hlogger, hgate⟩ := logger_of_current (o := o) h
  have hhands : (gateInForce calls).hands (levelInForce calls) e =
      decide ((levelInForce calls).rank ≤ e.level.rank ∧ e.clash? true = none) := by
    rw [hgate, LogGate.hands, Bool.and_self, Bool.decide_and]
    cases e.clash? true <;> simp
  simp only [LogCall.heard?, hlogger]
  simp only [standingAfter, gate_obtained, ofEvent_obtained, hhands, decide_eq_true_eq]

end Standing

end Log

end HdlLint
