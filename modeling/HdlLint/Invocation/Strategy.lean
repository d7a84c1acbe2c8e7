import HdlLint.Invocation.Translation
import HdlLint.Log.Event
import HdlLint.Path.Platform

/-!
# Path strategies

Where the linter runs decides on its name, on the program that starts it, and on how paths
are written for it.
-/

namespace HdlLint

/-- Where the linter runs. -/
inductive PathStrategy where
  /-- On a POSIX host. -/
  | native
  /-- On a Windows host, where the linter wants slashes. -/
  | windows
  /-- Inside the Linux subsystem of a Windows host, where paths have other names. -/
  | subsystem (translator : Translator)

/-- What asking for paths has caused so far: the requests made, and the events logged. -/
structure PathTrace where
  requests : List (List String)
  events : List Event

def PathTrace.empty : PathTrace := ⟨[], []⟩

def PathTrace.append (a b : PathTrace) : PathTrace :=
  ⟨a.requests ++ b.requests, a.events ++ b.events⟩

namespace PathStrategy

/-- The strategy of a platform. The subsystem is one of Windows only. -/
def select (platform : Platform) (useWsl : Bool) (translator : Translator) :
    PathStrategy :=
  if !platform.isWindows then native
  else if useWsl then subsystem translator
  else windows

def binary : PathStrategy → String
  | native => "verilator"
  | windows => "verilator_bin.exe"
  | subsystem _ => "verilator"

/-- The program that starts the linter, if it is not started directly. -/
def wrapper : PathStrategy → List String
  | subsystem _ => [subsystemProgram]
  | _ => []

/-- The path of the linter in a folder, or its name alone. A folder inside the subsystem
is a POSIX path. -/
def binaryPath (s : PathStrategy) (folder : String) : String :=
  if folder = "" then s.binary
  else
    let join := match s with
      | windows => Path.Windows.join
      | _ => Path.Posix.join
    String.ofList (join folder.toList s.binary.toList)

/-- The report of a path that is written in another way for the linter. -/
def adaptedEvent (text path adapted : String) : Event :=
  ⟨.info, text, [("original", .text path), ("rewritten", .text adapted)]⟩

/-- A path as it is written for the linter. -/
def adapt (s : PathStrategy) (path : String) : Except Stop String × PathTrace :=
  match s with
  | native => (.ok path, .empty)
  | windows =>
    let adapted := String.ofList (Path.Windows.toSlashes path.toList)
    (.ok adapted, ⟨[], [adaptedEvent "path rewritten for verilator" path adapted]⟩)
  | subsystem translator =>
    let (request, answer) := translator.translate path
    match answer with
    | .ok adapted =>
      (.ok adapted, ⟨[request], [adaptedEvent "path rewritten for WSL" path adapted]⟩)
    | .error stop => (.error stop, ⟨[request], []⟩)

end PathStrategy

end HdlLint
