import HdlLint.Session.Run

/-!
# Sessions

A session is the linter of one workspace at work: the store, the settings for the next
run, and the runs begun so far. Runs may overlap. A run keeps the settings with which it
was started; when it ends by itself, its diagnostics replace the content of the store, so
of two overlapping runs the one that ends last wins.

A step that starts a run includes all its turns up to the launch of the linter, and those
up to its end if nothing holds the linter back; no other step comes between the call that
starts a run and the moment at which its settings are read.
-/

namespace HdlLint

/-- A run begun in the background. -/
inductive RunState where
  /-- Its linter is running. -/
  | waiting (request : LintRequest) (invocation : Invocation)
    (child : ChildBehavior) (wantsResult : Bool)
  | ended (how : RunEnd)

/-- A workspace and the runs on it. -/
structure Session where
  store : DiagnosticStore
  settings : LintSettings
  root : Option String
  platform : Platform
  translator : Translator
  runs : List (String × RunState)

/-- A result given to the caller that waited for a run. -/
structure Delivery where
  run : String
  result : LintResult

/-- What a step of a session has caused. -/
structure StepEffects extends Effects where
  deliveries : List Delivery := []

namespace StepEffects

def ofEffects (e : Effects) : StepEffects := { toEffects := e }

def append (a b : StepEffects) : StepEffects :=
  ⟨a.toEffects.append b.toEffects, a.deliveries ++ b.deliveries⟩

end StepEffects

namespace Session

/-- The request for a document under the current settings. -/
def request (s : Session) (document : Document) : LintRequest :=
  ⟨document, s.settings, s.root, s.platform, s.translator⟩

def run? (s : Session) (id : String) : Option RunState :=
  s.runs.lookup id

/-- The session with a new state of a run. -/
def setRun (s : Session) (id : String) (state : RunState) : Session :=
  { s with runs := (id, state) :: s.runs.filter fun r => r.1 ≠ id }

/-- Lints a document and waits for the end. -/
def lint (s : Session) (document : Document) (child : ChildBehavior) :
    RunEnd × Session × StepEffects :=
  let (how, store, effects) := (s.request document).run child s.store
  (how, { s with store := store }, .ofEffects effects)

/-- The report of a run in the background that crashed. -/
def crashEvent (document : Document) (crash : Crash) : Event :=
  ⟨.error, "lint run crashed",
    [("path", .text document.path), ("error", .text crash.literal)]⟩

/-- What the end of a run in the background causes: a crash is logged, and whoever waits
is given the result. -/
def settle (id : String) (document : Document) (wantsResult : Bool) (how : RunEnd) :
    StepEffects :=
  let logged := match how with
    | .crashed crash => [crashEvent document crash]
    | _ => []
  let deliveries := match how.delivered? with
    | some result => if wantsResult then [⟨id, result⟩] else []
    | none => []
  { events := logged, deliveries := deliveries }

/-- Ends a run in the background whose effects so far are given. -/
def conclude (s : Session) (id : String) (document : Document) (wantsResult : Bool)
    (how : RunEnd) (store : DiagnosticStore) (effects : Effects) :
    Session × StepEffects :=
  ({ s with store := store }.setRun id (.ended how),
    (StepEffects.ofEffects effects).append (settle id document wantsResult how))

/-- Whether a time limit strikes as soon as a run has to wait. One that is no number
does. -/
def strikesWhileWaiting (request : LintRequest) : Bool :=
  request.settings.timeout.any fun x => x.isNonpositive || x = .nan

/-- Starts a run in the background. A gated linter runs until it is told to finish;
another one ends at once. -/
def start (s : Session) (id : String) (document : Document) (child : ChildBehavior)
    (gated wantsResult : Bool) : Session × StepEffects :=
  let request := s.request document
  match request.launch child with
  | (.ended how, effects) => s.conclude id document wantsResult how s.store effects
  | (.running invocation, effects) =>
    if gated && !strikesWhileWaiting request then
      (s.setRun id (.waiting request invocation child wantsResult), .ofEffects effects)
    else
      let child := if gated then .timesOut else child
      let (how, store, more) := request.complete invocation child s.store
      s.conclude id document wantsResult how store (effects.append more)

/-- Lets the linter of a waiting run go on, which brings the run to its end. -/
def finish (s : Session) (id : String) : Session × StepEffects :=
  match s.run? id with
  | some (.waiting request invocation child wantsResult) =>
    let (how, store, effects) := request.complete invocation child s.store
    s.conclude id request.document wantsResult how store effects
  | _ => (s, {})

def cancel (s : Session) (id : String) : Session × StepEffects :=
  match s.run? id with
  | some (.waiting ..) => (s.setRun id (.ended .cancelled), {})
  | _ => (s, {})

/-- How a run ended, if it has. -/
def runEnd? (s : Session) (id : String) : Option RunEnd :=
  match s.run? id with
  | some (.ended how) => some how
  | _ => none

def settingsEvent (settings : LintSettings) : Event :=
  ⟨.info, "linting config updated",
    [("path", .text settings.path), ("arguments", .text settings.arguments),
      ("run_at_file_location", .bool settings.runAtFile),
      ("use_wsl", .bool settings.useWsl)]⟩

/-- Takes new settings for the runs started from now on. -/
def updateSettings (s : Session) (settings : LintSettings) : Session × StepEffects :=
  ({ s with settings := settings }, .ofEffects (.ofEvents [settingsEvent settings]))

/-- Makes a change of the store. -/
def change (s : Session) (c : Change) : Option Crash × Session × StepEffects :=
  let publication := s.store.publish c
  (publication.crash, { s with store := publication.store },
    { notices := publication.notices })

/-- Forgets the diagnostics of a closed document. -/
def closeDocument (s : Session) (document : Document) :
    Option Crash × Session × StepEffects :=
  s.change (.delete document.path)

end Session

end HdlLint
