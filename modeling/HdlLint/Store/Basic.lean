import HdlLint.Diagnostic.Set
import HdlLint.Fault.Crash

/-!
# The diagnostic store

The store holds the diagnostics currently shown for a workspace. A change replaces its
whole content, and then every listener is called with the new content, in the order of
subscription. A listener may react: it may make further changes, which are carried out and
announced before the next listener hears of the first one; it may end a subscription,
alter the snapshot that it shares with the listeners after it, or fail, which ends
everything.

`DiagnosticStore.publish` carries out a change with a bound on how deep changes may cause
further ones.
-/

namespace HdlLint

/-- A change of the store's content. -/
inductive Change where
  /-- Show the diagnostics of a run and nothing else. -/
  | replace (diagnostics : DiagnosticSet)
  /-- Show nothing. -/
  | clear
  /-- Drop the diagnostics of one file. -/
  | delete (path : String)
  deriving Repr

def Change.apply (c : Change) (current : DiagnosticSet) : DiagnosticSet :=
  match c with
  | replace diagnostics => diagnostics
  | clear => .empty
  | delete path => current.without path

/-- What a listener does about a snapshot. -/
inductive Reaction where
  /-- Make a further change. -/
  | publish (change : Change)
  /-- End the first subscription of the named listener. -/
  | unsubscribe (name : String)
  /-- Add a diagnostic to the snapshot, which the listeners after it see too. -/
  | annotate (d : Diagnostic)
  /-- Fail. -/
  | fail (crash : Crash)
  deriving Repr

/-- A listener, known by its name, and what it does about a snapshot. -/
structure Listener where
  name : String
  react : DiagnosticSet → List Reaction

/-- The content of the store and its subscriptions in order. -/
structure DiagnosticStore where
  current : DiagnosticSet
  listeners : List Listener

namespace DiagnosticStore

/-- The store without content and listeners. -/
def empty : DiagnosticStore := ⟨.empty, []⟩

/-- The store with one more subscription, behind the others. -/
def subscribe (s : DiagnosticStore) (l : Listener) : DiagnosticStore :=
  { s with listeners := s.listeners ++ [l] }

/-- The store without the first subscription of the named listener, if it has one. -/
def unsubscribe (s : DiagnosticStore) (name : String) : DiagnosticStore :=
  { s with listeners := s.listeners.eraseP fun l => l.name = name }

/-- A snapshot given to a listener. -/
structure Notice where
  listener : String
  snapshot : DiagnosticSet

/-- What a change has led to so far: the store, the notices in order, and the failure that
ended it. -/
structure Publication where
  store : DiagnosticStore
  notices : List Notice
  crash : Option Crash

/-- A publication in which the listeners of one change are being called, with the snapshot
they share. -/
structure Announcement extends Publication where
  snapshot : DiagnosticSet

/-- Carries out one reaction of a listener. -/
def carryOut (publishInner : DiagnosticStore → Change → Publication) (a : Announcement)
    (r : Reaction) : Announcement :=
  if a.crash.isSome then a
  else match r with
    | .publish change =>
      let inner := publishInner a.store change
      { a with
        store := inner.store, notices := a.notices ++ inner.notices, crash := inner.crash }
    | .unsubscribe name => { a with store := a.store.unsubscribe name }
    | .annotate d => { a with snapshot := a.snapshot.add d }
    | .fail crash => { a with crash := some crash }

def announce (publishInner : DiagnosticStore → Change → Publication) (a : Announcement)
    (l : Listener) : Announcement :=
  if a.crash.isSome then a
  else
    (l.react a.snapshot).foldl (carryOut publishInner)
      { a with notices := a.notices ++ [⟨l.name, a.snapshot⟩] }

/-- Carries out a change and calls the listeners, with a bound on the depth of changes. -/
def publishWithin : Nat → DiagnosticStore → Change → Publication
  | 0, s, _ => ⟨s, [], some (.of .recursion "maximum recursion depth exceeded")⟩
  | depth + 1, s, change =>
    let current := change.apply s.current
    let start : Announcement := ⟨⟨{ s with current := current }, [], none⟩, current⟩
    (s.listeners.foldl (announce (publishWithin depth)) start).toPublication

/-- The depth to which changes may cause further ones. -/
def maxDepth : Nat := 250

/-- Carries out a change and calls the listeners. -/
def publish (s : DiagnosticStore) (change : Change) : Publication :=
  s.publishWithin maxDepth change

end DiagnosticStore

end HdlLint
