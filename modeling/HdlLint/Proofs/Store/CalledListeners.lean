import HdlLint.Proofs.Store.Cascade
import HdlLint.Proofs.Store.FailingListeners
import HdlLint.Proofs.Store.QuietListeners

/-!
# Which listeners a change calls

A change calls every listener once, in the order of subscription and with the new content,
whatever the listeners do; only a failure keeps those from being called that come behind
it.  The notices of a publication therefore come in parts, one for each call: a part
begins with the notice of the call, and all else in it is about changes that the called
listener makes itself.

* `calls`: the calls that a change asks for.
* `inTurn_publish`: these calls are carried out in turn, up to a failure.
* `InTurn.notices_eq`: if listeners make no change, there are no notices but those of the
  calls.
* `notices_publish_of_watches`: the notices of a change that all listeners only watch.
-/

namespace HdlLint

/-- The diagnostic that a reaction adds to the snapshot. -/
def Reaction.addition? : Reaction → Option Diagnostic
  | annotate d => some d
  | _ => none

theorem Reaction.eq_annotate_of_addition?
    {r : Reaction} {d : Diagnostic}
    (h : r.addition? = some d) :
    r = .annotate d := by
  cases r with
  | annotate d' =>
      rw [Option.some.inj h]
  | publish c =>
      cases h
  | unsubscribe name =>
      cases h
  | fail crash =>
      cases h

theorem Reaction.eq_publish_of_change?
    {r : Reaction} {c : Change}
    (h : r.change? = some c) :
    r = .publish c := by
  cases r with
  | publish c' =>
      rw [Option.some.inj h]
  | annotate d =>
      cases h
  | unsubscribe name =>
      cases h
  | fail crash =>
      cases h

/-- The diagnostics that a listener adds to the snapshot it is shown. -/
def Listener.additions (l : Listener) (content : DiagnosticSet) : List Diagnostic :=
  (l.react content).filterMap Reaction.addition?

/-- A listener that leaves the snapshot as it is, whatever it is told of. -/
def Listener.KeepsSnapshot (l : Listener) : Prop :=
  ∀ (content : DiagnosticSet) (d : Diagnostic), .annotate d ∉ l.react content

/-- A listener that only watches: it does nothing about what it is told, except that it
may end subscriptions. -/
def Listener.Watches (l : Listener) : Prop :=
  ∀ content : DiagnosticSet, ∀ r ∈ l.react content, ∃ name : String, r = .unsubscribe name

namespace Listener.Watches

variable {l : Listener}

theorem quiet
    (h : l.Watches) :
    l.Quiet := by
  intro content r hr
  obtain ⟨name, rfl⟩ := h content r hr
  exact trivial

theorem makesNoChange
    (h : l.Watches) :
    l.MakesNoChange := by
  intro content c hc
  obtain ⟨name, hname⟩ := h content _ hc
  cases hname

theorem keepsSnapshot
    (h : l.Watches) :
    l.KeepsSnapshot := by
  intro content d hd
  obtain ⟨name, hname⟩ := h content _ hd
  cases hname

end Listener.Watches

namespace DiagnosticStore

/-- A call of a listener with a content. -/
structure Call where
  listener : Listener
  content : DiagnosticSet

def Call.notice (call : Call) : Notice :=
  ⟨call.listener.name, call.content⟩

/-- The calls of some listeners, one for each of them in order.  They share a snapshot, to
which every listener may add. -/
def calls : DiagnosticSet → List Listener → List Call
  | _, [] => []
  | content, l :: rest =>
      ⟨l, content⟩ :: calls ((l.additions content).foldl .add content) rest

/-- The notices of some changes that are made one after another. -/
inductive NoticesOf : List Change → List Notice → Prop
  | nil :
      NoticesOf [] []
  | cons
      {c : Change} {rest : List Change} {later : List Notice}
      (s : DiagnosticStore) (depth : Nat)
      (hlater : NoticesOf rest later) :
      NoticesOf (c :: rest) ((s.publishWithin depth c).notices ++ later)

/-- The notices that a call brings about: its own, and behind it those of changes that the
listener makes, all of them or as many as it comes to make before a failure. -/
def Call.BringsAbout (call : Call) (notices : List Notice) : Prop :=
  ∃ (made : List Change) (inner : List Notice),
    made <+: call.listener.changes call.content ∧ NoticesOf made inner ∧
      notices = call.notice :: inner

/-- Notices that are brought about by some calls in turn. -/
def InTurn (calls : List Call) (notices : List Notice) : Prop :=
  ∃ parts : List (List Notice),
    notices = parts.flatten ∧ List.Forall₂ Call.BringsAbout calls parts

section Calls

variable {content : DiagnosticSet} {listeners : List Listener}

@[simp] theorem map_listener_calls
    (content : DiagnosticSet) (listeners : List Listener) :
    (calls content listeners).map Call.listener = listeners := by
  induction listeners generalizing content with
  | nil =>
      rfl
  | cons l rest ih =>
      rw [calls, List.map_cons, ih]

theorem additions_of_keepsSnapshot
    {l : Listener}
    (h : l.KeepsSnapshot) (content : DiagnosticSet) :
    l.additions content = [] := by
  refine List.filterMap_eq_nil_iff.mpr fun r hr =>
    Option.eq_none_iff_forall_ne_some.mpr fun d hd => ?_
  obtain rfl := Reaction.eq_annotate_of_addition? hd
  exact h content d hr

/-- Listeners that leave the snapshot as it is are all called with the same content. -/
theorem calls_of_keepsSnapshot
    (h : ∀ l ∈ listeners, l.KeepsSnapshot) (content : DiagnosticSet) :
    calls content listeners = listeners.map fun l => ⟨l, content⟩ := by
  induction listeners with
  | nil =>
      rfl
  | cons l rest ih =>
      have hfirst := additions_of_keepsSnapshot (h l List.mem_cons_self) content
      rw [calls, hfirst, List.foldl_nil, List.map_cons,
        ih fun l' hl' => h l' (List.mem_cons_of_mem _ hl')]

theorem changes_of_makesNoChange
    {l : Listener}
    (h : l.MakesNoChange) (content : DiagnosticSet) :
    l.changes content = [] := by
  refine List.filterMap_eq_nil_iff.mpr fun r hr =>
    Option.eq_none_iff_forall_ne_some.mpr fun c hc => ?_
  obtain rfl := Reaction.eq_publish_of_change? hc
  exact h content c hr

/-- Listeners that make no change bring about no notices but those of their calls. -/
theorem InTurn.notices_eq
    {cs : List Call} {notices : List Notice}
    (h : InTurn cs notices)
    (hnochange : ∀ l ∈ cs.map Call.listener, l.MakesNoChange) :
    notices = cs.map Call.notice := by
  obtain ⟨parts, rfl, hparts⟩ := h
  induction hparts with
  | nil =>
      rfl
  | @cons call part rest parts hpart _ ih =>
      obtain ⟨made, inner, hmade, hinner, rfl⟩ := hpart
      have hnone := changes_of_makesNoChange (hnochange _ List.mem_cons_self) call.content
      rw [hnone, List.prefix_nil] at hmade
      subst hmade
      cases hinner
      rw [List.flatten_cons, ih fun l hl => hnochange l (List.mem_cons_of_mem _ hl)]
      rfl

end Calls

section Announcing

variable (depth : Nat) {a : Announcement}

/-- What the reactions of a listener bring about: notices of its changes, and additions to
the snapshot. -/
theorem foldl_carryOut_bringsAbout
    (ha : a.crash = none) (reactions : List Reaction) :
    let after := reactions.foldl (carryOut (publishWithin depth)) a
    (∃ (made : List Change) (inner : List Notice),
      made <+: reactions.filterMap Reaction.change? ∧ NoticesOf made inner ∧
        after.notices = a.notices ++ inner) ∧
    (after.crash = none →
      after.snapshot =
      (reactions.filterMap Reaction.addition?).foldl .add a.snapshot) := by
  intro after
  induction reactions generalizing a with
  | nil =>
      exact ⟨⟨[], [], List.prefix_rfl, .nil, (List.append_nil _).symm⟩, fun _ => rfl⟩
  | cons r rest ih =>
      have hafter : after = rest.foldl (carryOut (publishWithin depth))
          (carryOut (publishWithin depth) a r) :=
        rfl
      cases r with
      | publish c =>
          let inner := a.store.publishWithin depth c
          rw [carryOut_publish ha] at hafter
          cases hcrash : inner.crash with
          | some crash =>
              -- the change fails, so nothing more is done
              rw [foldl_carryOut_of_crash hcrash] at hafter
              rw [hafter]
              refine ⟨⟨[c], inner.notices ++ [], ?_, .cons a.store depth .nil, ?_⟩, ?_⟩
              · exact List.cons_prefix_cons.mpr ⟨rfl, List.nil_prefix⟩
              · rw [List.append_nil]
              · intro hnone
                cases hcrash.symm.trans hnone
          | none =>
              let next : Announcement := { a with
                store := inner.store
                notices := a.notices ++ inner.notices
                crash := inner.crash }
              obtain ⟨⟨made, later, hmade, hlater, hnotices⟩, hsnapshot⟩ :=
                ih (a := next) hcrash
              rw [hafter]
              refine ⟨⟨c :: made, inner.notices ++ later, ?_,
                .cons a.store depth hlater, ?_⟩, hsnapshot⟩
              · exact List.cons_prefix_cons.mpr ⟨rfl, hmade⟩
              · rw [hnotices, List.append_assoc]
      | unsubscribe name =>
          rw [carryOut_unsubscribe ha] at hafter
          rw [hafter]
          exact ih (a := { a with store := a.store.unsubscribe name }) ha
      | annotate d =>
          rw [carryOut_annotate ha] at hafter
          rw [hafter]
          exact ih (a := { a with snapshot := a.snapshot.add d }) ha
      | fail crash =>
          have hfailed : carryOut (publishWithin depth) a (.fail crash) =
              { a with crash := some crash } := by
            simp [carryOut, ha]
          have hcrash : ({ a with crash := some crash } : Announcement).crash =
              some crash :=
            rfl
          rw [hfailed, foldl_carryOut_of_crash hcrash] at hafter
          rw [hafter]
          refine ⟨⟨[], [], List.nil_prefix, .nil, (List.append_nil _).symm⟩, ?_⟩
          intro hnone
          cases hnone

/-- What one call brings about. -/
theorem announce_bringsAbout
    (ha : a.crash = none) (l : Listener) :
    let after := announce (publishWithin depth) a l
    (∃ part : List Notice, Call.BringsAbout ⟨l, a.snapshot⟩ part ∧
      after.notices = a.notices ++ part) ∧
    (after.crash = none →
      after.snapshot = (l.additions a.snapshot).foldl .add a.snapshot) := by
  intro after
  obtain ⟨⟨made, inner, hmade, hinner, hnotices⟩, hsnapshot⟩ :=
    foldl_carryOut_bringsAbout depth
      (a := { a with notices := a.notices ++ [⟨l.name, a.snapshot⟩] }) ha
      (l.react a.snapshot)
  have hafter : after = _ :=
    announce_eq ha l
  rw [hafter]
  refine ⟨⟨_, ⟨made, inner, hmade, hinner, rfl⟩, ?_⟩, hsnapshot⟩
  rw [hnotices, List.append_assoc]
  rfl

/-- Listeners are called in turn, up to the first failure. -/
theorem foldl_announce_inTurn
    (a : Announcement) (listeners : List Listener) :
    let after := listeners.foldl (announce (publishWithin depth)) a
    ∃ called uncalled : List Listener,
      listeners = called ++ uncalled ∧ (after.crash = none → uncalled = []) ∧
      ∃ notices : List Notice, InTurn (calls a.snapshot called) notices ∧
        after.notices = a.notices ++ notices := by
  intro after
  induction listeners generalizing a with
  | nil =>
      exact ⟨[], [], rfl, fun _ => rfl, [], ⟨[], rfl, .nil⟩, (List.append_nil _).symm⟩
  | cons l rest ih =>
      cases ha : a.crash with
      | some crash =>
          have hafter : after = a :=
            foldl_announce_of_crash ha (l :: rest)
          rw [hafter]
          refine ⟨[], l :: rest, rfl, ?_, [], ⟨[], rfl, .nil⟩, (List.append_nil _).symm⟩
          intro hnone
          cases ha.symm.trans hnone
      | none =>
          obtain ⟨⟨part, hpart, hnotices⟩, hsnapshot⟩ := announce_bringsAbout depth ha l
          obtain ⟨called, uncalled, hrest, hend, notices, ⟨parts, rfl, hparts⟩, hlater⟩ :=
            ih (announce (publishWithin depth) a l)
          cases hcrash : (announce (publishWithin depth) a l).crash with
          | some crash =>
              -- the call failed, and it was the last one
              have hafter : after = announce (publishWithin depth) a l :=
                foldl_announce_of_crash hcrash rest
              rw [hafter]
              refine ⟨[l], rest, rfl, ?_, part, ⟨[part], ?_, .cons hpart .nil⟩, hnotices⟩
              · intro hnone
                cases hcrash.symm.trans hnone
              · rw [List.flatten_singleton]
          | none =>
              rw [hsnapshot hcrash] at hparts
              refine ⟨l :: called, uncalled, ?_, hend, part ++ parts.flatten,
                ⟨part :: parts, rfl, .cons hpart hparts⟩, ?_⟩
              · rw [hrest, List.cons_append]
              · exact hlater.trans (by rw [hnotices, List.append_assoc])

/-- A change calls the listeners in turn with the content that it leads to, up to the
first failure. -/
theorem inTurn_publish
    (s : DiagnosticStore) (c : Change) :
    ∃ called uncalled : List Listener,
      s.listeners = called ++ uncalled ∧ ((s.publish c).crash = none → uncalled = []) ∧
      InTurn (calls (c.apply s.current) called) (s.publish c).notices := by
  obtain ⟨called, uncalled, hlisteners, hend, notices, hturn, hnotices⟩ :=
    foldl_announce_inTurn (maxDepth - 1) ⟨⟨s.changed c, [], none⟩,
      c.apply s.current⟩ s.listeners
  rw [List.nil_append] at hnotices
  rw [← hnotices] at hturn
  exact ⟨called, uncalled, hlisteners, hend, hturn⟩

/-- Listeners that only watch are each told once of the content that a change leads to. -/
theorem notices_publish_of_watches
    {s : DiagnosticStore}
    (h : ∀ l ∈ s.listeners, l.Watches) (c : Change) :
    (s.publish c).notices = s.listeners.map fun l => ⟨l.name, c.apply s.current⟩ := by
  obtain ⟨called, uncalled, hlisteners, hend, hturn⟩ := inTurn_publish s c
  have hquiet : s.Quiet := fun l hl => (h l hl).quiet
  obtain rfl := hend (hquiet.crash_publish c)
  rw [List.append_nil] at hlisteners
  subst hlisteners
  rw [hturn.notices_eq
    (by rw [map_listener_calls]; exact fun l hl => (h l hl).makesNoChange),
    calls_of_keepsSnapshot fun l hl => (h l hl).keepsSnapshot, List.map_map]
  rfl

end Announcing

end DiagnosticStore
end HdlLint
