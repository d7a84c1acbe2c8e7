import HdlLint.Proofs.Store.Calls
import HdlLint.Proofs.Store.Cascade

/-!
# Publishing is a cascade

If all listeners do nothing but make changes, a publication that comes to its end carries
out a cascade: it gives the notices of the cascade and leaves the content to which the
cascade leads.  The proof follows the calls, one lemma for the reactions of a listener and
one for the listeners of a change; the bound on the depth only says which publications
come to their end.

* `cascade_publishWithin`: one change.
* `cascade_publishAllWithin`: changes one after another.
-/

namespace HdlLint

/-- A listener that does nothing but make changes, whatever it is told of. -/
def Listener.OnlyPublishes (l : Listener) : Prop :=
  ∀ content : DiagnosticSet, ∀ r ∈ l.react content, ∃ c : Change, r = .publish c

namespace DiagnosticStore

/-- Changes carried out one after another, up to the first that fails. -/
def publishAllWithin (depth : Nat) (s : DiagnosticStore) : List Change → Publication
  | [] => ⟨s, [], none⟩
  | c :: rest =>
    let first := s.publishWithin depth c
    match first.crash with
    | some _ => first
    | none =>
      let later := publishAllWithin depth first.store rest
      { later with notices := first.notices ++ later.notices }

/-- The notices of a log in order. -/
def notices (log : List Entry) : List Notice :=
  (told log).map (·.2)

@[simp] theorem notices_append
    (log log' : List Entry) :
    notices (log ++ log') = notices log ++ notices log' := by
  simp [notices]

/-- A publication ends in a cascade of these jobs: it adds the notices of the cascade and
leaves its content. -/
def EndsIn (listeners : List Listener) (jobs : List Job) (p : Point)
    (before : List Notice)
    (e : Publication) : Prop :=
  ∃ (log : List Entry) (q : Point),
    Cascade listeners jobs p log q ∧
    e.notices = before ++ notices log ∧
    e.store.current = q.content ∧
    e.store.listeners = listeners

theorem EndsIn.listeners_eq
    {listeners : List Listener} {jobs : List Job} {p : Point}
    {before : List Notice} {e : Publication}
    (h : EndsIn listeners jobs p before e) :
    e.store.listeners = listeners := by
  obtain ⟨-, -, -, -, -, hlisteners⟩ := h
  exact hlisteners

theorem EndsIn.trans
    {listeners : List Listener} {jobs jobs' : List Job} {p : Point} {before : List Notice}
    {e e' : Publication}
    (h : EndsIn listeners jobs p before e)
    (h' : ∀ number : Nat, EndsIn listeners jobs' ⟨e.store.current, number⟩ e.notices e') :
    EndsIn listeners (jobs ++ jobs') p before e' := by
  obtain ⟨log, q, hcascade, hnotices, hcurrent, -⟩ := h
  obtain ⟨log', r, hcascade', hnotices', hcurrent', hlisteners'⟩ := h' q.number
  rw [hcurrent] at hcascade'
  refine ⟨log ++ log', r, hcascade.append hcascade', ?_, hcurrent', hlisteners'⟩
  rw [hnotices', hnotices, notices_append, List.append_assoc]

theorem EndsIn.with_before
    {listeners : List Listener} {jobs : List Job} {p : Point} {e : Publication}
    (h : EndsIn listeners jobs p [] e) (before : List Notice) :
    EndsIn listeners jobs p before { e with notices := before ++ e.notices } := by
  obtain ⟨log, q, hcascade, hnotices, hcurrent, hlisteners⟩ := h
  exact ⟨log, q, hcascade, congrArg (before ++ ·) hnotices, hcurrent, hlisteners⟩

section Calls

variable {publishInner : DiagnosticStore → Change →
  Publication} {listeners : List Listener}
variable {a : Announcement}

/-- What is assumed of the changes that listeners make. -/
def Cascades (listeners : List Listener)
    (publishInner : DiagnosticStore → Change → Publication) : Prop :=
  ∀ (s : DiagnosticStore) (c : Change) (number : Nat),
    s.listeners = listeners → (publishInner s c).crash = none →
      EndsIn listeners [.make c] ⟨s.current, number⟩ [] (publishInner s c)

/-- The reactions of a listener. -/
theorem endsIn_foldl_carryOut
    (hinner : Cascades listeners publishInner)
    {reactions : List Reaction}
    (hreactions : ∀ r ∈ reactions, ∃ c : Change, r = .publish c)
    (ha : a.crash = none)
    (hlisteners : a.store.listeners = listeners)
    (hend : (reactions.foldl (carryOut publishInner) a).crash = none)
    (number : Nat) :
    EndsIn listeners ((reactions.filterMap Reaction.change?).map .make)
      ⟨a.store.current, number⟩
        a.notices (reactions.foldl (carryOut publishInner) a).toPublication ∧
      (reactions.foldl (carryOut publishInner) a).snapshot = a.snapshot := by
  induction reactions generalizing a number with
  | nil =>
      exact ⟨⟨[], _, .nil _, by simp [notices], rfl, hlisteners⟩, rfl⟩
  | cons r rest ih =>
      obtain ⟨c, rfl⟩ := hreactions r List.mem_cons_self
      have hrest : ∀ x ∈ rest, ∃ c : Change, x = .publish c :=
        fun x hx => hreactions x (List.mem_cons_of_mem _ hx)
      rw [List.foldl_cons, carryOut_publish ha] at hend ⊢
      have hcrash : (publishInner a.store c).crash = none := by
        refine Option.eq_none_iff_forall_ne_some.mpr fun crash hsome => ?_
        rw [foldl_carryOut_of_crash hsome, hsome] at hend
        cases hend
      have hfirst := hinner a.store c number hlisteners hcrash
      have hlisteners' := hfirst.listeners_eq
      refine ⟨(hfirst.with_before a.notices).trans fun number' => ?_, ?_⟩
      · exact (ih hrest hcrash hlisteners' hend number').1
      · exact (ih hrest hcrash hlisteners' hend number).2

/-- The calls of some listeners for one change. -/
theorem endsIn_foldl_announce
    (hinner : Cascades listeners publishInner)
    {called : List Listener} {content : DiagnosticSet}
    (hcalled : ∀ l ∈ called, l.OnlyPublishes)
    (ha : a.crash = none)
    (hlisteners : a.store.listeners = listeners)
    (hsnapshot : a.snapshot = content)
    (hend : (called.foldl (announce publishInner) a).crash = none)
    (told number : Nat) :
    EndsIn listeners (called.map fun l => .tell told l content) ⟨a.store.current, number⟩
      a.notices (called.foldl (announce publishInner) a).toPublication := by
  induction called generalizing a number with
  | nil =>
      exact ⟨[], _, .nil _, by simp [notices], rfl, hlisteners⟩
  | cons l rest ih =>
      have hrest : ∀ x ∈ rest, x.OnlyPublishes :=
        fun x hx => hcalled x (List.mem_cons_of_mem _ hx)
      let given : Announcement :=
        { a with notices := a.notices ++ [⟨l.name, a.snapshot⟩] }
      let reacted := (l.react a.snapshot).foldl (carryOut publishInner) given
      rw [List.foldl_cons, announce_eq ha] at hend ⊢
      -- a failure among the reactions would have been the end of the whole publication
      have hreacted : reacted.crash = none := by
        refine Option.eq_none_iff_forall_ne_some.mpr fun crash hsome => ?_
        rw [foldl_announce_of_crash hsome, hsome] at hend
        cases hend
      obtain ⟨⟨log, q, hcascade, hnotices, hcurrent, hlisteners'⟩, hsame⟩ :=
        endsIn_foldl_carryOut hinner (hcalled l List.mem_cons_self a.snapshot)
          (a := given) ha hlisteners hreacted number
      have hfirst :
          EndsIn listeners [.tell told l content] ⟨a.store.current, number⟩ a.notices
            reacted.toPublication := by
        subst hsnapshot
        refine ⟨_, q, .tell hcascade (.nil q), ?_, hcurrent, hlisteners'⟩
        rw [hnotices]
        simp [notices, given]
      refine hfirst.trans fun number' => ?_
      exact ih hrest hreacted hlisteners' (hsame.trans hsnapshot) hend number'

end Calls

section Changes

variable {s : DiagnosticStore}

/-- A change that comes to its end is a cascade. -/
theorem cascade_publishWithin
    {listeners : List Listener}
    (honly : ∀ l ∈ listeners, l.OnlyPublishes)
    (depth : Nat) :
    Cascades listeners (publishWithin depth) := by
  induction depth with
  | zero =>
      intro s c number hlisteners hend
      cases hend
  | succ depth ih =>
      intro s c number hlisteners hend
      subst hlisteners
      obtain ⟨log, q, hcascade, hnotices, hcurrent, hlisteners⟩ :=
        endsIn_foldl_announce ih honly
          (a := ⟨⟨{ s with current := c.apply s.current }, [], none⟩,
          c.apply s.current⟩) rfl rfl rfl hend (number + 1) (number + 1)
      refine ⟨_, q, .make hcascade (.nil q), ?_, hcurrent, hlisteners⟩
      rw [publishWithin, hnotices]
      simp [notices]

/-- Changes one after another that come to their end are a cascade. -/
theorem cascade_publishAllWithin
    {depth : Nat} {changes : List Change}
    (honly : ∀ l ∈ s.listeners, l.OnlyPublishes)
    (hend : (s.publishAllWithin depth changes).crash = none)
    (number : Nat) :
    EndsIn s.listeners (changes.map .make) ⟨s.current, number⟩ []
      (s.publishAllWithin depth changes) := by
  induction changes generalizing s number with
  | nil =>
      exact ⟨[], _, .nil _, rfl, rfl, rfl⟩
  | cons c rest ih =>
      rw [publishAllWithin] at hend ⊢
      have hcrash : (s.publishWithin depth c).crash = none := by
        refine Option.eq_none_iff_forall_ne_some.mpr fun crash hsome => ?_
        simp [hsome] at hend
      simp only [hcrash] at hend ⊢
      have hfirst := cascade_publishWithin honly depth s c number rfl hcrash
      have hlisteners := hfirst.listeners_eq
      refine hfirst.trans fun number' => ?_
      have hlater := ih (by rw [hlisteners]; exact honly) hend number'
      rw [hlisteners] at hlater
      exact hlater.with_before _

end Changes

end DiagnosticStore
end HdlLint
