import HdlLint.Text.Quoted

/-!
# Crashes

A crash is a failure that the part of the program in which it arises does not handle: it
ends whatever was being done. It is known by its kind and by the texts given with it,
usually one.
-/

namespace HdlLint

/-- The kinds of crashes. -/
inductive CrashKind where
  /-- Anything that went wrong while running. -/
  | runtime
  /-- A chain of calls that does not end. -/
  | recursion
  /-- A value that an operation cannot take. -/
  | value
  /-- An operation on a value of the wrong kind. -/
  | type
  /-- A key that is not there. -/
  | key
  /-- A position that is not there. -/
  | index
  /-- A property that a value does not have. -/
  | property
  /-- A number out of range. -/
  | overflow
  /-- A variable that cannot be read as a setting. -/
  | setting
  /-- Bytes that are no text. -/
  | unicode
  /-- A folder where a file is needed. -/
  | isFolder
  /-- A file where a folder is needed. -/
  | notFolder
  /-- A file where a folder is to be made. -/
  | fileExists
  /-- A closing tag without an opening one. -/
  | markup
  deriving Repr, DecidableEq

def CrashKind.name : CrashKind → String
  | runtime => "RuntimeError"
  | recursion => "RecursionError"
  | value => "ValueError"
  | type => "TypeError"
  | key => "KeyError"
  | index => "IndexError"
  | property => "AttributeError"
  | overflow => "OverflowError"
  | setting => "SettingsError"
  | unicode => "UnicodeDecodeError"
  | isFolder => "IsADirectoryError"
  | notFolder => "NotADirectoryError"
  | fileExists => "FileExistsError"
  | markup => "MarkupError"

/-- A failure that is not handled where it arises. -/
structure Crash where
  kind : CrashKind
  arguments : List String
  deriving Repr, DecidableEq

namespace Crash

def of (kind : CrashKind) (text : String) : Crash := ⟨kind, [text]⟩

/-- The texts of a crash as a bracketed list. -/
def argumentList (c : Crash) : String :=
  "(" ++ ", ".intercalate (c.arguments.map Text.quoted) ++ ")"

/-- What a crash says: its text. -/
def text (c : Crash) : String :=
  match c.arguments with
  | [] => ""
  | [s] => if c.kind = .key then Text.quoted s else s
  | _ => c.argumentList

/-- A crash by its kind and texts. -/
def literal (c : Crash) : String :=
  c.kind.name ++ c.argumentList

end Crash

end HdlLint
