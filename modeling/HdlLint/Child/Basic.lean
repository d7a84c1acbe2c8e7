import HdlLint.Fault.Crash

/-!
# Child programs

What the program can observe of another program it starts: whether it starts at all,
whether it ends in time, what it writes and with which code it ends. A program for which
the wait has no end leaves nothing to observe.
-/

namespace HdlLint

/-- A refusal of the operating system, with its number, its text and the file it is about,
as far as they are known. -/
structure SystemRefusal where
  number : Option Int
  text : Option String
  file : Option String
  deriving Repr, DecidableEq

def SystemRefusal.message (r : SystemRefusal) : String :=
  match r.number, r.text, r.file with
  | some n, some t, some f =>
      "[Errno " ++ toString n ++ "] " ++ t ++ ": " ++ Text.quoted f
  | some n, some t, none => "[Errno " ++ toString n ++ "] " ++ t
  | _, some t, _ => t
  | _, none, _ => ""

/-- Why a child program does not start. -/
inductive StartFault where
  /-- The operating system refuses. -/
  | system (refusal : SystemRefusal)
  /-- An argument cannot be passed on, such as one with a NUL character. -/
  | argument (crash : Crash)
  /-- Something else goes wrong. -/
  | other (crash : Crash)
  deriving Repr, DecidableEq

/-- What a child program does when it is started. -/
inductive ChildBehavior where
  | doesNotStart (fault : StartFault)
  /-- The wait for it is broken off: by the time limit, or without one by the system. -/
  | timesOut
  /-- Having written this, it ends while it is waited for. The code with which it ended
  may be unknown. -/
  | ends (output errors : List UInt8) (code : Option Int)
  deriving Repr, DecidableEq

/-- What is done with a child program. -/
inductive ChildAction where
  | launch (argv : List String) (folder : Option String)
  | kill
  | wait
  deriving Repr, DecidableEq

end HdlLint
