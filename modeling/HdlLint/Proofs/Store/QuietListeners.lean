import HdlLint.Proofs.Store.Calls

/-!
# Stores with quiet listeners

A quiet listener neither makes a change nor fails when it is called; it may end
subscriptions and alter the snapshot that it shares with the listeners after it.  A change
of a store all of whose listeners are quiet has the effect that it has without any
listener, and never fails.

* `Announcement.Calm.announce`: one call.
* `Quiet.calm_publish`: a whole change.
-/

namespace HdlLint

/-- A reaction that neither makes a change nor fails. -/
def Reaction.Quiet : Reaction → Prop
  | publish _ => False
  | unsubscribe _ => True
  | annotate _ => True
  | fail _ => False

/-- A listener that neither makes a change nor fails, whatever it is shown. -/
def Listener.Quiet (l : Listener) : Prop :=
  ∀ snapshot : DiagnosticSet, ∀ r ∈ l.react snapshot, r.Quiet

namespace DiagnosticStore

/-- A store all of whose listeners are quiet. -/
def Quiet (s : DiagnosticStore) : Prop :=
  ∀ l ∈ s.listeners, l.Quiet

theorem Quiet.subscribe
    {s : DiagnosticStore} {l : Listener}
    (hs : s.Quiet)
    (hl : l.Quiet) :
    (s.subscribe l).Quiet := by
  intro l' hl'
  rcases List.mem_append.mp hl' with hold | hnew
  · exact hs l' hold
  · obtain rfl := List.mem_singleton.mp hnew
    exact hl

theorem Quiet.unsubscribe
    {s : DiagnosticStore}
    (hs : s.Quiet)
    (name : String) :
    (s.unsubscribe name).Quiet :=
  fun l hl => hs l (List.mem_of_mem_eraseP hl)

/-- While quiet listeners are called, the content stays what the change made it and
nothing fails. -/
def Announcement.Calm (current : DiagnosticSet) (a : Announcement) : Prop :=
  a.crash = none ∧ a.store.current = current ∧ a.store.Quiet

section Calls

variable {publishInner : DiagnosticStore → Change → Publication}
variable {current : DiagnosticSet} {a : Announcement}

theorem Announcement.Calm.carryOut
    {r : Reaction}
    (ha : a.Calm current)
    (hr : r.Quiet) :
    (carryOut publishInner a r).Calm current := by
  obtain ⟨hcrash, hcurrent, hquiet⟩ := ha
  cases r with
  | publish change =>
      exact hr.elim
  | unsubscribe name =>
      rw [carryOut_unsubscribe hcrash]
      exact ⟨hcrash, hcurrent, hquiet.unsubscribe name⟩
  | annotate d =>
      rw [carryOut_annotate hcrash]
      exact ⟨hcrash, hcurrent, hquiet⟩
  | fail crash =>
      exact hr.elim

theorem Announcement.Calm.foldl_carryOut
    {reactions : List Reaction}
    (ha : a.Calm current)
    (hreactions : ∀ r ∈ reactions, r.Quiet) :
    (reactions.foldl (DiagnosticStore.carryOut publishInner) a).Calm current := by
  induction reactions generalizing a with
  | nil =>
      exact ha
  | cons r rest ih =>
      refine ih (ha.carryOut (hreactions r List.mem_cons_self)) ?_
      intro r' hr'
      exact hreactions r' (List.mem_cons_of_mem _ hr')

theorem Announcement.Calm.announce
    {l : Listener}
    (ha : a.Calm current)
    (hl : l.Quiet) :
    (announce publishInner a l).Calm current := by
  have hcalled :
      Announcement.Calm current
        { a with notices := a.notices ++ [⟨l.name, a.snapshot⟩] } :=
    ha
  rw [announce_eq ha.1]
  exact hcalled.foldl_carryOut (hl a.snapshot)

theorem Announcement.Calm.foldl_announce
    {listeners : List Listener}
    (ha : a.Calm current)
    (hlisteners : ∀ l ∈ listeners, l.Quiet) :
    (listeners.foldl (DiagnosticStore.announce publishInner) a).Calm current := by
  induction listeners generalizing a with
  | nil =>
      exact ha
  | cons l rest ih =>
      refine ih (ha.announce (hlisteners l List.mem_cons_self)) ?_
      intro l' hl'
      exact hlisteners l' (List.mem_cons_of_mem _ hl')

end Calls

section Changes

variable {s : DiagnosticStore}

/-- A change with quiet listeners does what it does without listeners. -/
theorem Quiet.calm_publish
    (hs : s.Quiet)
    (change : Change) :
    (s.publish change).crash = none ∧
    (s.publish change).store.current = change.apply s.current ∧
    (s.publish change).store.Quiet := by
  have hstart :
      Announcement.Calm (change.apply s.current)
        ⟨⟨{ s with current := change.apply s.current }, [], none⟩,
          change.apply s.current⟩ :=
    ⟨rfl, rfl, hs⟩
  exact hstart.foldl_announce hs

theorem Quiet.crash_publish
    (hs : s.Quiet)
    (change : Change) :
    (s.publish change).crash = none :=
  (hs.calm_publish change).1

theorem Quiet.current_publish
    (hs : s.Quiet)
    (change : Change) :
    (s.publish change).store.current = change.apply s.current :=
  (hs.calm_publish change).2.1

theorem Quiet.publish
    (hs : s.Quiet)
    (change : Change) :
    (s.publish change).store.Quiet :=
  (hs.calm_publish change).2.2

end Changes

end DiagnosticStore
end HdlLint
