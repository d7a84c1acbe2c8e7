import HdlLint.Proofs.Store.Calls

/-!
# Failures of publications

The store itself never fails: a publication fails because a listener fails, or because the
changes that listeners make cause further ones too deep.  What is kept by every change,
every end of a subscription and every failure is kept by a whole publication, which
`Keeps.publishWithin` says once for all invariants.

* `listeners_and_crash_publish`: who listens after a change, and where the failure of a
  publication comes from.
* `current_publish_of_makesNoChange`: the content after a change, also one whose
  publication fails.
-/

namespace HdlLint

/-- A listener that does not fail by itself, whatever it is told of. -/
def Listener.NeverFails (l : Listener) : Prop :=
  ∀ (content : DiagnosticSet) (crash : Crash), .fail crash ∉ l.react content

/-- A listener that makes no change, whatever it is told of. -/
def Listener.MakesNoChange (l : Listener) : Prop :=
  ∀ (content : DiagnosticSet) (c : Change), .publish c ∉ l.react content

namespace DiagnosticStore

/-- The failure of changes that cause further ones too deep. -/
def tooDeep : Crash :=
  .of .recursion "maximum recursion depth exceeded"

/-- The store right after a change, before anyone is told of it. -/
def changed (s : DiagnosticStore) (c : Change) : DiagnosticStore :=
  { s with current := c.apply s.current }

/-- A relation between the store and a failure that everything keeps which these listeners
can do. -/
structure Keeps (listeners : List Listener) (I : DiagnosticStore → Option Crash → Prop) :
    Prop where
  subscribed {s : DiagnosticStore} {crash : Option Crash} :
    I s crash → ∀ l ∈ s.listeners, l ∈ listeners
  change {s : DiagnosticStore} {l : Listener} {content : DiagnosticSet} {c : Change} :
    l ∈ listeners → .publish c ∈ l.react content → I s none → I (s.changed c) none
  unsubscribe {s : DiagnosticStore} (name : String) :
    I s none → I (s.unsubscribe name) none
  fail {s : DiagnosticStore} {l : Listener} {content : DiagnosticSet} {crash : Crash} :
    l ∈ listeners → .fail crash ∈ l.react content → I s none → I s (some crash)
  tooDeep {s : DiagnosticStore} :
    I s none → I s (some tooDeep)

namespace Keeps

variable {listeners : List Listener} {I : DiagnosticStore → Option Crash → Prop}
variable {publishInner : DiagnosticStore → Change → Publication} {a : Announcement}

/-- What is assumed of the changes that listeners make. -/
def Inner (I : DiagnosticStore → Option Crash → Prop)
    (publishInner : DiagnosticStore → Change → Publication) : Prop :=
  ∀ (s : DiagnosticStore) (c : Change),
    I s none → I (s.changed c) none → I (publishInner s c).store (publishInner s c).crash

theorem carryOut
    (hI : Keeps listeners I)
    (hinner : Inner I publishInner)
    {l : Listener} {content : DiagnosticSet} {r : Reaction}
    (hl : l ∈ listeners)
    (hr : r ∈ l.react content)
    (ha : I a.store a.crash) :
    I (carryOut publishInner a r).store (carryOut publishInner a r).crash := by
  cases hcrash : a.crash with
  | some crash =>
      simpa [DiagnosticStore.carryOut, hcrash] using ha
  | none =>
      rw [hcrash] at ha
      cases r with
      | publish c =>
          rw [carryOut_publish hcrash]
          exact hinner a.store c ha (hI.change hl hr ha)
      | unsubscribe name =>
          rw [carryOut_unsubscribe hcrash, hcrash]
          exact hI.unsubscribe name ha
      | annotate d =>
          rw [carryOut_annotate hcrash, hcrash]
          exact ha
      | fail crash =>
          simpa [DiagnosticStore.carryOut, hcrash] using hI.fail hl hr ha

theorem foldl_carryOut
    (hI : Keeps listeners I)
    (hinner : Inner I publishInner)
    {l : Listener} {content : DiagnosticSet} {reactions : List Reaction}
    (hl : l ∈ listeners)
    (hreactions : ∀ r ∈ reactions, r ∈ l.react content)
    (ha : I a.store a.crash) :
    I (reactions.foldl (DiagnosticStore.carryOut publishInner) a).store
      (reactions.foldl (DiagnosticStore.carryOut publishInner) a).crash := by
  induction reactions generalizing a with
  | nil =>
      exact ha
  | cons r rest ih =>
      exact ih (fun r' hr' => hreactions r' (List.mem_cons_of_mem _ hr'))
        (hI.carryOut hinner hl (hreactions r List.mem_cons_self) ha)

theorem announce
    (hI : Keeps listeners I)
    (hinner : Inner I publishInner)
    {l : Listener}
    (hl : l ∈ listeners)
    (ha : I a.store a.crash) :
    I (announce publishInner a l).store (announce publishInner a l).crash := by
  cases hcrash : a.crash with
  | some crash =>
      simpa [DiagnosticStore.announce, hcrash] using ha
  | none =>
      rw [announce_eq hcrash]
      exact hI.foldl_carryOut hinner hl (fun r hr => hr) ha

theorem foldl_announce
    (hI : Keeps listeners I)
    (hinner : Inner I publishInner)
    {called : List Listener}
    (hcalled : ∀ l ∈ called, l ∈ listeners)
    (ha : I a.store a.crash) :
    I (called.foldl (DiagnosticStore.announce publishInner) a).store
      (called.foldl (DiagnosticStore.announce publishInner) a).crash := by
  induction called generalizing a with
  | nil =>
      exact ha
  | cons l rest ih =>
      exact ih (fun l' hl' => hcalled l' (List.mem_cons_of_mem _ hl'))
        (hI.announce hinner (hcalled l List.mem_cons_self) ha)

/-- A change whose publication begins keeps what the calls of listeners keep. -/
theorem publishWithin_succ
    (hI : Keeps listeners I)
    {depth : Nat}
    (hinner : Inner I (publishWithin depth))
    {s : DiagnosticStore} {c : Change}
    (hchanged : I (s.changed c) none) :
    I (s.publishWithin (depth + 1) c).store (s.publishWithin (depth + 1) c).crash :=
  hI.foldl_announce (a := ⟨⟨s.changed c, [], none⟩, c.apply s.current⟩) hinner
    (hI.subscribed (s := s.changed c) hchanged) hchanged

theorem publishWithin
    (hI : Keeps listeners I) (depth : Nat) :
    Inner I (publishWithin depth) := by
  induction depth with
  | zero =>
      intro s c hs _
      exact hI.tooDeep hs
  | succ depth ih =>
      intro s c _ hchanged
      exact hI.publishWithin_succ ih hchanged

theorem publish
    (hI : Keeps listeners I)
    {s : DiagnosticStore} {c : Change}
    (hchanged : I (s.changed c) none) :
    I (s.publish c).store (s.publish c).crash := by
  have hdepth : s.publish c = s.publishWithin ((maxDepth - 1) + 1) c :=
    rfl
  rw [hdepth]
  exact hI.publishWithin_succ (hI.publishWithin (maxDepth - 1)) hchanged

end Keeps

section Failures

variable {s : DiagnosticStore} {c : Change} {crash : Crash}

/-- A failure that listeners can cause: their own, or that of changes that cause further
ones too deep. -/
def ListenerCrash (listeners : List Listener) (crash : Crash) : Prop :=
  (∃ l ∈ listeners, ∃ content : DiagnosticSet, .fail crash ∈ l.react content) ∨
    crash = tooDeep

/-- A change brings no one to listen who did not before, and fails only as its listeners
can. -/
theorem listeners_and_crash_publish
    (s : DiagnosticStore) (c : Change) :
    (∀ l ∈ (s.publish c).store.listeners, l ∈ s.listeners) ∧
    ∀ crash ∈ (s.publish c).crash, ListenerCrash s.listeners crash := by
  let I (t : DiagnosticStore) (failure : Option Crash) : Prop :=
    (∀ l ∈ t.listeners, l ∈ s.listeners) ∧ ∀ crash ∈ failure,
      ListenerCrash s.listeners crash
  have hI : Keeps s.listeners I :=
    { subscribed := fun ht => ht.1
      change := fun _ _ ht => ht
      unsubscribe := fun name ht => ⟨fun l hl => ht.1 l (List.mem_of_mem_eraseP hl), ht.2⟩
      fail := by
        rintro t l content failure hl hmem ⟨hlisteners, -⟩
        refine ⟨hlisteners, ?_⟩
        rintro _ ⟨⟩
        exact Or.inl ⟨l, hl, content, hmem⟩
      tooDeep := by
        rintro t ⟨hlisteners, -⟩
        refine ⟨hlisteners, ?_⟩
        rintro _ ⟨⟩
        exact Or.inr rfl }
  exact hI.publish ⟨fun l hl => hl, by simp⟩

theorem mem_listeners_publish
    {l : Listener}
    (h : l ∈ (s.publish c).store.listeners) :
    l ∈ s.listeners :=
  (listeners_and_crash_publish s c).1 l h

theorem listenerCrash_of_publish
    (h : (s.publish c).crash = some crash) :
    ListenerCrash s.listeners crash :=
  (listeners_and_crash_publish s c).2 crash h

/-- Listeners that make no change leave the content what the change made it, also when
they fail. -/
theorem current_publish_of_makesNoChange
    (h : ∀ l ∈ s.listeners, l.MakesNoChange) (c : Change) :
    (s.publish c).store.current = c.apply s.current := by
  let I (t : DiagnosticStore) (_ : Option Crash) : Prop :=
    (∀ l ∈ t.listeners, l ∈ s.listeners) ∧ t.current = c.apply s.current
  have hI : Keeps s.listeners I :=
    { subscribed := fun ht => ht.1
      change := fun hl hmem _ => absurd hmem (h _ hl _ _)
      unsubscribe := fun name ht => ⟨fun l hl => ht.1 l (List.mem_of_mem_eraseP hl), ht.2⟩
      fail := fun _ _ ht => ht
      tooDeep := fun ht => ht }
  have hpublished : I (s.publish c).store (s.publish c).crash :=
    hI.publish ⟨fun l hl => hl, rfl⟩
  exact hpublished.2

/-- No listener fails when a set that was built by adding diagnostics replaces the
content: none fails by itself, and the changes that they make do not cause further ones
too deep. -/
structure NeverFails (s : DiagnosticStore) : Prop where
  listeners : ∀ l ∈ s.listeners, l.NeverFails
  not_tooDeep : ∀ ds : List Diagnostic,
    (s.publish (.replace (.ofList ds))).crash ≠ some tooDeep

theorem NeverFails.crash_publish
    (h : s.NeverFails) (ds : List Diagnostic) :
    (s.publish (.replace (.ofList ds))).crash = none := by
  cases hcrash : (s.publish (.replace (.ofList ds))).crash with
  | none =>
      rfl
  | some crash =>
      rcases listenerCrash_of_publish hcrash with ⟨l, hl, content, hmem⟩ | rfl
      · exact absurd hmem (h.listeners l hl content crash)
      · exact absurd hcrash (h.not_tooDeep ds)

end Failures
end DiagnosticStore
end HdlLint
