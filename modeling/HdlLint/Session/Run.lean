import HdlLint.Child.Run
import HdlLint.Diagnostic.Transcript
import HdlLint.Invocation.Build
import HdlLint.Session.Result
import HdlLint.Store.Basic

/-!
# Lint runs

A lint run builds an invocation, launches the linter, awaits its output and publishes the
diagnostics found. It is cut into two parts at the moment where the linter is running:
`LintRequest.launch` and `LintRequest.complete`. The settings with which a run is
requested govern both.
-/

namespace HdlLint

/-- What a run is asked to do, and all that governs it. -/
structure LintRequest where
  document : Document
  settings : LintSettings
  root : Option String
  platform : Platform
  translator : Translator

/-- What has been caused: events logged, deeds done with child programs, requests for
paths, and notices given to listeners, each in order. -/
structure Effects where
  events : List Event := []
  actions : List ChildAction := []
  requests : List (List String) := []
  notices : List DiagnosticStore.Notice := []

namespace Effects

def append (a b : Effects) : Effects :=
  ⟨a.events ++ b.events, a.actions ++ b.actions, a.requests ++ b.requests,
    a.notices ++ b.notices⟩

def ofEvents (events : List Event) : Effects := { events := events }

/-- The effects of a run of the linter. -/
def ofRun (t : RunTrace) : Effects := { events := t.events, actions := t.actions }

/-- The effects of asking for paths. -/
def ofPaths (t : PathTrace) : Effects := { events := t.events, requests := t.requests }

end Effects

namespace LintRequest

def event (r : LintRequest) : Event :=
  ⟨.info, "verilator lint requested",
    [("path", .text r.document.path), ("language", .text r.document.language)]⟩

/-- The report of a fault that ended a run. -/
def faultEvent (f : Fault) : Event :=
  ⟨.error, "lint run failed",
    [("error", .text f.code.name), ("message", .text f.message)]⟩

/-- The report of the diagnostics found. -/
def foundEvent (s : DiagnosticSet) : Event :=
  ⟨.info, "errors/warnings returned",
    [("count", .int s.size), ("files", .int s.files.length)]⟩

/-- The end of a run that was stopped. -/
def stopped (invocation : Option Invocation) : Stop → RunEnd × Effects
  | .fault f =>
    (.finished
      { status := .error, invocation := invocation, errorDetail := some f.fault.text },
      .ofEvents [faultEvent f.fault])
  | .crash c => (.crashed c, {})

/-- A run that has come to the point where the linter is running, or to its end. -/
inductive Progress where
  | running (invocation : Invocation)
  | ended (how : RunEnd)

/-- Builds the invocation and launches the linter. -/
def launch (r : LintRequest) (child : ChildBehavior) : Progress × Effects :=
  let requested := Effects.ofEvents [r.event]
  let (built, paths) :=
    Invocation.build r.settings r.platform r.translator r.root r.document
  let effects := requested.append (.ofPaths paths)
  match built with
  | .error stop =>
    let (how, more) := stopped none stop
    (.ended how, effects.append more)
  | .ok invocation =>
    let (launched, trace) := LinterRun.launch invocation child
    let effects := effects.append (.ofRun trace)
    match launched with
    | .error stop =>
      let (how, more) := stopped (some invocation) stop
      (.ended how, effects.append more)
    | .ok _ => (.running invocation, effects)

/-- The time limit of the run as a value. -/
def limit (r : LintRequest) : Value :=
  .ofReal? r.settings.timeout

/-- How reported paths are to be understood. -/
def scope (r : LintRequest) : PathScope :=
  ⟨r.settings.runAtFile, r.root, r.platform⟩

/-- Reads the output of the linter and publishes the diagnostics in it. -/
def collect (r : LintRequest) (invocation : Invocation) (output : LinterOutput)
    (store : DiagnosticStore) : RunEnd × DiagnosticStore × Effects :=
  let (found, events) := Transcript.read r.scope output.errors
  let publication := store.publish (.replace found)
  let effects : Effects := { events := events, notices := publication.notices }
  match publication.crash with
  | some crash => (.crashed crash, publication.store, effects)
  | none =>
    (.finished {
        status := if found.isNonempty then .dirty else .clean
        diagnostics := found
        invocation := some invocation
        code := some output.code },
      publication.store, effects.append (.ofEvents [foundEvent found]))

/-- Brings a run to its end whose linter is running. -/
def complete (r : LintRequest) (invocation : Invocation) (child : ChildBehavior)
    (store : DiagnosticStore) : RunEnd × DiagnosticStore × Effects :=
  let (awaited, trace) := LinterRun.await invocation r.limit child
  let effects := Effects.ofRun trace
  match awaited with
  | .error stop =>
    let (how, more) := stopped (some invocation) stop
    (how, store, effects.append more)
  | .ok output =>
    let (how, store, more) := r.collect invocation output store
    (how, store, effects.append more)

def run (r : LintRequest) (child : ChildBehavior) (store : DiagnosticStore) :
    RunEnd × DiagnosticStore × Effects :=
  match r.launch child with
  | (.ended how, effects) => (how, store, effects)
  | (.running invocation, effects) =>
    let (how, store, more) := r.complete invocation child store
    (how, store, effects.append more)

end LintRequest

end HdlLint
