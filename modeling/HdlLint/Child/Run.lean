import HdlLint.Child.Basic
import HdlLint.Invocation.Basic
import HdlLint.Invocation.Translation
import HdlLint.Log.Event
import HdlLint.Text.Utf8

/-!
# Running the linter

The linter is launched and its output awaited. Only a launch that fails or a time limit
that strikes is a failure; a linter that found issues ends with a code other than zero,
which is logged and passed on.
-/

namespace HdlLint

/-- What the linter wrote, and the code with which it ended. -/
structure LinterOutput where
  code : Int
  output : String
  errors : String
  deriving Repr, DecidableEq

/-- What running the linter has caused so far: what was done with it, and the events
logged. -/
structure RunTrace where
  actions : List ChildAction
  events : List Event

def RunTrace.append (a b : RunTrace) : RunTrace :=
  ⟨a.actions ++ b.actions, a.events ++ b.events⟩

namespace LinterRun

/-- The code of a linter that ended with an unknown one. -/
def unknownCode : Int := -1

/-- The report of a launch that failed. -/
def launchFailedEvent (command reason : String) : Event :=
  ⟨.error, "linter launch failed", [("command", .text command), ("error", .text reason)]⟩

/-- The report of a time limit that struck. -/
def timeoutEvent (command : String) (limit : Value) : Event :=
  ⟨.error, "linter timed out", [("command", .text command), ("timeout_sec", limit)]⟩

/-- The report of a code other than zero. -/
def codeEvent (command : String) (code : Int) : Event :=
  ⟨.error, "linter exited with non-zero status",
    [("command", .text command), ("returncode", .int code)]⟩

/-- A launch that was refused for a reason the run handles. -/
def refused (i : Invocation) (reason : String) (launch : ChildAction) :
    Except Stop Unit × RunTrace :=
  (.error (.fault (.launchFailed i.command reason)),
    ⟨[launch], [launchFailedEvent i.command reason]⟩)

def launch (i : Invocation) (child : ChildBehavior) : Except Stop Unit × RunTrace :=
  let action := ChildAction.launch i.argv i.folder
  match child with
  | .doesNotStart (.system refusal) => refused i refusal.message action
  | .doesNotStart (.argument crash) => refused i crash.text action
  | .doesNotStart (.other crash) => (.error (.crash crash), ⟨[action], []⟩)
  | _ => (.ok (), ⟨[action], []⟩)

/-- Whether a time limit strikes before any output is read: one that is not positive. -/
def limitStrikesAtOnce (limit : Value) : Bool :=
  match limit.number? with
  | some (.integer n) => n ≤ 0
  | some (.real x) => x.isNonpositive
  | none => false

/-- The limit as it is reported: no limit, and a limit of zero, count as zero seconds. -/
def reportedLimit (limit : Value) : Value :=
  if limit.isTruthy then limit else .real .zero

/-- A run that is given up: the linter is killed and its end awaited. -/
def giveUp (i : Invocation) (limit : Value) : Except Stop LinterOutput × RunTrace :=
  (.error (.fault (.timeout i.command (reportedLimit limit))),
    ⟨[.kill, .wait], [timeoutEvent i.command limit]⟩)

/-- Awaits the output of a launched linter. A limit that is not positive strikes even
where the linter would end. -/
def await (i : Invocation) (limit : Value) (child : ChildBehavior) :
    Except Stop LinterOutput × RunTrace :=
  match child with
  | .ends output errors code =>
    if limitStrikesAtOnce limit then giveUp i limit
    else
      let code := code.getD unknownCode
      (.ok ⟨code, Text.Utf8.decodeLossy output, Text.Utf8.decodeLossy errors⟩,
        ⟨[], if code = 0 then [] else [codeEvent i.command code]⟩)
  | _ => giveUp i limit

end LinterRun

def LinterRun.run (i : Invocation) (limit : Value) (child : ChildBehavior) :
    Except Stop LinterOutput × RunTrace :=
  match LinterRun.launch i child with
  | (.error stop, trace) => (.error stop, trace)
  | (.ok _, trace) =>
    let (result, trace') := LinterRun.await i limit child
    (result, trace.append trace')

end HdlLint
