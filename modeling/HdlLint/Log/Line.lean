import HdlLint.Log.Event
import HdlLint.Settings.Model
import HdlLint.Value.Json
import HdlLint.Value.Literal

/-!
# Log lines

An entry of the log is a map from names to values: the fields of an event in their order,
its text, its level, the time, and the run to which it belongs. `jsonLine` writes an entry
as one JSON text, `consoleLine` in a form for reading; both leave out the names that the
log keeps for itself.
-/

namespace HdlLint

/-- The named values of one log line, in order. -/
abbrev LogEntry := List (Value × Value)

/-- What is true of the moment at which something is logged: the time, and the run that is
on. -/
structure LogMoment where
  time : String
  run : Option String
  deriving Repr

namespace LogEntry

/-- The entry with a value for a name. A name that is already there keeps its place. -/
def set (e : LogEntry) (name : String) (v : Value) : LogEntry :=
  Value.assign (.text name) v e

def get? (e : LogEntry) (name : String) : Option Value :=
  Value.lookup? (.text name) e

/-- The entry with a level and the circumstances of its moment. -/
def stamp (e : LogEntry) (level : String) (m : LogMoment) : LogEntry :=
  let e := (e.set "level" (.text level)).set "timestamp" (.text m.time)
  match m.run with
  | some id => e.set "run_id" (.text id)
  | none => e

/-- The entry of a message that has no fields. -/
def ofMessage (level text : String) (m : LogMoment) : LogEntry :=
  (LogEntry.set [] "event" (.text text)).stamp level m

/-- The entry of an event. The name of its source comes first; a source with an empty name
counts as none. -/
def ofEvent (source : Option String) (e : Event) (m : LogMoment) : LogEntry :=
  let named : LogEntry := match source with
    | some name => if name = "" then [] else [(.text "logger", .text name)]
    | none => []
  let entry := e.fields.foldl (fun (acc : LogEntry) f => acc.set f.1 f.2) named
  (entry.set "event" (.text e.text)).stamp e.level.name m

/-- The names under which the log itself keeps things with an entry. They are not written,
whoever has given them. -/
def internalNames : List String := ["_record", "_from_structlog"]

/-- What is written of an entry. -/
def written (e : LogEntry) : LogEntry :=
  e.filter fun (k, _) => !internalNames.any fun name => Value.sameKey k (.text name)

/-- An entry as one JSON text. -/
def jsonLine (e : LogEntry) : String :=
  (Value.map e).toJson

/-- The characters for which a text is quoted on a line. -/
def forcesQuotes (c : Char) : Bool :=
  c = ' ' || c = '\t' || c = '=' || c = '\r' || c = '\n' || c = '\x22' || c = '\x27'

/-- A value behind its name: a text is shown as it is if that can be told apart from its
surroundings. -/
def fieldText : Value → String
  | .text s => if s.toList.any forcesQuotes then Text.quoted s else s
  | v => v.literal

/-- How many characters the level and the text of an entry take on a line at least. -/
structure Widths where
  level : Nat := 0
  event : Nat := 0
  deriving Repr

/-- A text that is filled up with spaces. -/
def filledUp (width : Nat) (s : String) : String :=
  s ++ String.ofList (List.replicate (width - s.length) ' ')

/-- The names with a place of their own on a line, and how their values are shown
there. -/
def columns : List (String × (Widths → String → String)) :=
  [("timestamp", fun _ s => s), ("level", fun w s => "[" ++ filledUp w.level s ++ "]"),
    ("event", fun w s => filledUp w.event s), ("logger", fun _ s => "[" ++ s ++ "]"),
    ("logger_name", fun _ s => "[" ++ s ++ "]")]

/-- The values with a place of their own that an entry has. -/
def columnTexts (w : Widths) (e : LogEntry) : List String :=
  columns.filterMap fun (name, form) => (e.get? name).map fun v => form w v.display

/-- The other values behind their names, by the order of the names. -/
def fieldTexts (e : LogEntry) : List String :=
  let named := e.map fun (k, v) => (k.display, v)
  let others := named.filter fun x => (columns.lookup x.1).isNone
  (others.mergeSort fun x y => x.1 ≤ y.1).map fun (name, v) => name ++ "=" ++ fieldText v

/-- A text without the spaces at its end. -/
def withoutFinalSpaces (s : String) : String :=
  String.ofList (s.toList.reverse.dropWhile (· = ' ')).reverse

/-- An entry in a form for reading: parts that are not empty, with a space between
neighbours. -/
def consoleLine (w : Widths) (e : LogEntry) : String :=
  withoutFinalSpaces (" ".intercalate ((e.columnTexts w ++ e.fieldTexts).filter (· ≠ "")))

/-- The widths of what is printed while the log is not set up. A level has room for the
longest name of a method, `exception`. -/
def printedWidths : Widths := ⟨9, 30⟩

end LogEntry

def LogFormat.line : LogFormat → LogEntry → String
  | json, e => e.written.jsonLine
  | console, e => e.written.consoleLine {}

end HdlLint
