import HdlLint.Files
import HdlLint.Log.Line
import HdlLint.Path.Posix

/-!
# The log

The log has a level and outputs. What is logged is written to each output whose own level
it reaches, provided that it reaches the level of the log. Setting up the log anew
replaces the outputs; what earlier outputs have written stays. The log also knows the run
that is on, so that its lines can name it.

Events are logged through loggers, which have a gate before all this: one that lets events
from a level on through to the outputs or, before the log was ever set up, one that prints
them. A logger that is obtained by name keeps the gate of that moment, one without a name
goes by the gate of the log.
-/

namespace HdlLint

/-- All that the program writes: two streams, and files in a tree. -/
structure Outlets where
  output : String := ""
  errors : String := ""
  tree : FileTree
  deriving Repr

/-- Where an output writes. -/
inductive LogTarget where
  | errorStream
  | outputStream
  | file (place : List String)
  deriving Repr, DecidableEq

/-- An output of the log that is in force. -/
structure LogSink where
  least : Nat
  format : LogFormat
  target : LogTarget
  deriving Repr, DecidableEq

/-- What becomes of an event before any output is looked at. -/
inductive LogGate where
  | printer
  | filter (least : LogLevel)
  deriving Repr, DecidableEq

def LogGate.admits : LogGate → LogLevel → Bool
  | printer, _ => true
  | filter least, level => least.rank ≤ level.rank

/-- What events are logged through. -/
inductive Logger where
  | following
  | bound (name : String) (gate : LogGate)
  deriving Repr, DecidableEq

namespace Logger

/-- The logger that is obtained where a gate is in force. An empty name counts as none. -/
def obtained (gate : LogGate) (name : Option String) : Logger :=
  match name.filter (· ≠ "") with
  | some name => bound name gate
  | none => following

/-- The name that events of a logger have as their source. -/
def source : Logger → Option String
  | following => none
  | bound name _ => some name

/-- The gate of a logger where another one is in force. -/
def gate (current : LogGate) : Logger → LogGate
  | following => current
  | bound _ gate => gate

end Logger

/-- The outlets with a line more. -/
def Outlets.writeLine (o : Outlets) (target : LogTarget) (line : String) : Outlets :=
  let line := line ++ "\n"
  match target with
  | .errorStream => { o with errors := o.errors ++ line }
  | .outputStream => { o with output := o.output ++ line }
  | .file place => { o with tree := o.tree.append place line.toUTF8.toList }

/-- The log and what it has written. -/
structure Log where
  outlets : Outlets
  level : LogLevel := .warning
  gate : LogGate := .printer
  sinks : List LogSink := []
  /-- The run that is on. -/
  run : Option String := none
  /-- How many identifiers of runs have been made up. -/
  generated : Nat := 0
  deriving Repr

namespace Log

/-- Opens the file of an output, whose folder is made if it is missing. -/
def openTarget (o : Outlets) : LogDestination → Except Crash (LogTarget × Outlets)
  | .errorStream => .ok (.errorStream, o)
  | .outputStream => .ok (.outputStream, o)
  | .file path => do
    if path.toList.contains '\x00' then throw (.of .value "embedded null byte")
    let parts := Path.Posix.parts path.toList
    let tree ← o.tree.makeFolders parts.dropLast parts.dropLast.length
    let place := (Path.resolve true parts).map String.ofList
    pure (.file place, { o with tree := ← tree.openFile place })

/-- Puts outputs in force one after another, up to the first that cannot be opened. -/
def openOutputs (log : Log) (level : LogLevel) : List LogOutput → Option Crash × Log
  | [] => (none, log)
  | output :: rest =>
    match openTarget log.outlets output.destination with
    | .error crash => (some crash, log)
    | .ok (target, outlets) =>
      let sink : LogSink := ⟨(output.level.getD level).rank, output.format, target⟩
      openOutputs { log with outlets := outlets, sinks := log.sinks ++ [sink] } level rest

def configure (log : Log) (s : LogSettings) : Option Crash × Log :=
  openOutputs { log with level := s.level, gate := .filter s.level, sinks := [] }
    s.level s.outputs

/-- The least rank that is written where no output is in force. -/
def leastUnrouted : Nat := LogLevel.warning.rank

/-- Writes an entry to the outputs that take its rank. Without any output in force, a
plain text goes to the error stream. -/
def emit (log : Log) (rank : Nat) (entry : LogEntry) (plain : String) : Log :=
  let outlets :=
    if log.sinks.isEmpty then
      if leastUnrouted ≤ rank then log.outlets.writeLine .errorStream plain
      else log.outlets
    else
      log.sinks.foldl
        (fun o s =>
          if s.least ≤ rank then o.writeLine s.target (s.format.line entry) else o)
        log.outlets
  { log with outlets := outlets }

/-- The moment of a log at a time. -/
def moment (log : Log) (time : String) : LogMoment := ⟨time, log.run⟩

/-- Prints an event, whatever outputs and runs there are. -/
def print (log : Log) (time : String) (source : Option String) (e : Event) : Log :=
  let line := (LogEntry.ofEvent source e ⟨time, none⟩).consoleLine LogEntry.printedWidths
  { log with outlets := log.outlets.writeLine .outputStream line }

/-- What becomes of an event behind the gate. -/
def pass (log : Log) (gate : LogGate) (time : String)
    (source : Option String) (e : Event) : Log :=
  match gate with
  | .printer => log.print time source e
  | .filter least =>
    if least.rank ≤ e.level.rank && log.level.rank ≤ e.level.rank then
      let entry := LogEntry.ofEvent source e (log.moment time)
      log.emit e.level.rank entry (Value.map entry).literal
    else log

/-- Logs an event through a logger. The call fails for a field with the name of something
else that it is given. -/
def event (log : Log) (logger : Logger) (time : String) (e : Event) :
    Option Crash × Log :=
  let gate := logger.gate log.gate
  match e.clash? (gate.admits e.level) with
  | some name =>
      (some (.of .type ("got multiple values for argument " ++ Text.quoted name)), log)
  | none => (none, log.pass gate time logger.source e)

/-- Logs events of the program itself, whose loggers follow the log. -/
def events (log : Log) (time : String) (es : List Event) : Log :=
  es.foldl (fun l e => (l.event .following time e).2) log

/-- The source of messages about waiting, which are heard from warnings on whatever the
level of the log is. -/
def waitingSource : String := "asyncio"

/-- The level from which the waiting source is heard. -/
def waitingLevel : LogLevel := .warning

/-- The least rank of a message from a source. -/
def leastRankOf (log : Log) (source : String) : Nat :=
  if source = waitingSource || source.startsWith (waitingSource ++ ".") then
    waitingLevel.rank
  else log.level.rank

/-- The name of a rank in log lines. -/
def rankName (rank : Nat) : String :=
  match LogLevel.ofRank? rank with
  | some level => level.name
  | none => "level " ++ toString rank

/-- Logs a message of a source that is no part of the program. -/
def message (log : Log) (time source : String) (rank : Nat) (text : String) : Log :=
  if log.leastRankOf source ≤ rank then
    log.emit rank (.ofMessage (rankName rank) text (log.moment time)) text
  else log

/-- Sets the run that is on. Without an identifier, or with an empty one, one is made
up. -/
def setRun (log : Log) (id : Option String) : String × Log :=
  match id.filter (· ≠ "") with
  | some id => (id, { log with run := some id })
  | none =>
    let n := log.generated + 1
    let id := padded 12 n
    (id, { log with run := some id, generated := n })

/-- Ends the run that is on. -/
def clearRun (log : Log) : Log :=
  { log with run := none }

end Log

end HdlLint
