import HdlLint.Value.Basic

/-!
# Log events

An event is a level, a text and named fields in order. Levels are ordered by rank. A field
cannot have the name of anything else that is given in the call that logs the event.
-/

namespace HdlLint

/-- How important an event is. -/
inductive LogLevel where
  | debug
  | info
  | warning
  | error
  | critical
  deriving Repr, DecidableEq

namespace LogLevel

def rank : LogLevel → Nat
  | debug => 10
  | info => 20
  | warning => 30
  | error => 40
  | critical => 50

/-- The name of a level in log lines. -/
def name : LogLevel → String
  | debug => "debug"
  | info => "info"
  | warning => "warning"
  | error => "error"
  | critical => "critical"

/-- The name of a level in settings. -/
def settingName : LogLevel → String
  | debug => "DEBUG"
  | info => "INFO"
  | warning => "WARNING"
  | error => "ERROR"
  | critical => "CRITICAL"

/-- All levels, from the least rank on. -/
def all : List LogLevel := [debug, info, warning, error, critical]

/-- The level of a name in log lines. -/
def ofName? (s : String) : Option LogLevel :=
  all.find? fun l => l.name = s

def ofRank? (n : Nat) : Option LogLevel :=
  all.find? fun l => l.rank = n

end LogLevel

/-- A text to be logged, with named fields. -/
structure Event where
  level : LogLevel
  text : String
  fields : List (String × Value)
  deriving Repr

namespace Event

/-- What a call that logs an event is given besides the fields. -/
def callNames : List String := ["self", "event"]

/-- What is handed on besides the text and the fields of an event that passes the gate. -/
def passedName : String := "method_name"

/-- The name of a field that is also the name of something else, if there is one. -/
def clash? (e : Event) (passes : Bool) : Option String :=
  let names := e.fields.map Prod.fst
  (names.find? callNames.contains).or
    (if passes then names.find? (· = passedName) else none)

end Event

end HdlLint
