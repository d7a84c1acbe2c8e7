import HdlLint.Fault.Crash
import HdlLint.Value.Basic

/-!
# Checked values

Checking a value against a setting gives the setting, or the issues found, or a crash.
Issues of independent parts are collected in the order of the parts; the first crash ends
the check.
-/

namespace HdlLint

/-- What is wrong with a value. -/
inductive IssueKind where
  | notText
  | notUnicode
  | notBoolean
  | unreadableBoolean
  | notNumber
  | unreadableNumber
  | notAmong (allowed : List String)
  | notList
  | notModel (model : String)
  | unexpected
  | refused (reason : String)
  deriving Repr, DecidableEq

/-- Names in quotes with commas between them and a word before the last one. -/
def alternatives : List String → String
  | [] => ""
  | [s] => "'" ++ s ++ "'"
  | [s, t] => "'" ++ s ++ "' or '" ++ t ++ "'"
  | s :: r => "'" ++ s ++ "', " ++ alternatives r

namespace IssueKind

/-- The short name of an issue. -/
def name : IssueKind → String
  | notText => "string_type"
  | notUnicode => "string_unicode"
  | notBoolean => "bool_type"
  | unreadableBoolean => "bool_parsing"
  | notNumber => "float_type"
  | unreadableNumber => "float_parsing"
  | notAmong _ => "literal_error"
  | notList => "list_type"
  | notModel _ => "model_type"
  | unexpected => "extra_forbidden"
  | refused _ => "value_error"

def message : IssueKind → String
  | notText => "Input should be a valid string"
  | notUnicode =>
      "Input should be a valid string, unable to parse raw data as a unicode string"
  | notBoolean => "Input should be a valid boolean"
  | unreadableBoolean => "Input should be a valid boolean, unable to interpret input"
  | notNumber => "Input should be a valid number"
  | unreadableNumber =>
      "Input should be a valid number, unable to parse string as a number"
  | notAmong allowed => "Input should be " ++ alternatives allowed
  | notList => "Input should be a valid list"
  | notModel model => "Input should be a valid dictionary or instance of " ++ model
  | unexpected => "Extra inputs are not permitted"
  | refused reason => "Value error, " ++ reason

end IssueKind

/-- A step from a value to a part of it. -/
inductive Step where
  | name (s : String)
  | index (i : Nat)
  deriving Repr, DecidableEq

def Step.text : Step → String
  | name s => s
  | index i => toString i

/-- Something wrong with a part of a value. -/
structure Issue where
  location : List Step
  kind : IssueKind
  input : Value
  deriving Repr

/-- What a check gives. -/
inductive Checked (α : Type) where
  | ok (a : α)
  | invalid (issues : List Issue)
  | crashed (c : Crash)
  deriving Repr

namespace Checked

variable {α β : Type}

/-- A function of the checked setting. -/
def map (f : α → β) : Checked α → Checked β
  | ok a => ok (f a)
  | invalid issues => invalid issues
  | crashed c => crashed c

def seq (f : Checked (α → β)) (a : Checked α) : Checked β :=
  match f, a with
  | crashed c, _ => crashed c
  | _, crashed c => crashed c
  | ok f, ok a => ok (f a)
  | ok _, invalid issues => invalid issues
  | invalid issues, ok _ => invalid issues
  | invalid issues, invalid more => invalid (issues ++ more)

/-- Two independent checks, of which the first one gives the setting. -/
def seqLeft (a : Checked α) (b : Checked β) : Checked α :=
  seq (map (fun x (_ : β) => x) a) b

/-- A check that needs the setting another one gives. -/
def bind (a : Checked α) (f : α → Checked β) : Checked β :=
  match a with
  | ok a => f a
  | invalid issues => invalid issues
  | crashed c => crashed c

instance : Applicative Checked where
  pure := ok
  seq f a := seq f (a ())

/-- One issue with the whole value. -/
def issue (kind : IssueKind) (input : Value) : Checked α :=
  invalid [⟨[], kind, input⟩]

/-- The check as one of a part of a greater value. -/
def inside (step : Step) : Checked α → Checked α
  | invalid issues =>
      invalid (issues.map fun i => { i with location := step :: i.location })
  | c => c

/-- Independent checks of the members of a list. -/
def all : List (Checked α) → Checked (List α)
  | [] => ok []
  | c :: cs => seq (map List.cons c) (all cs)

end Checked

end HdlLint
