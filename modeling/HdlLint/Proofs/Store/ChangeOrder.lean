import HdlLint.Proofs.Store.PublishCascade

/-!
# The order in which listeners hear of changes

Listeners hear of changes in the order in which the changes were made exactly when no
listener but the last one makes a change.  A change that another listener makes is told to
everybody before the listeners behind it are told of the change that it reacted to.

* `Cascade.told_eq`: if only the last listener reacts, every listener is told of every
  change in order.
* `Cascade.not_reacting`: if the order is kept, only the last listener reacts.
* `inOrder_and_upToDate_iff`: the exact condition for publications.
* `overtaken_change`: two listeners, of which the second ends up with what is no longer
  shown.
-/

namespace HdlLint
namespace DiagnosticStore

/-- Every listener hears of changes in the order in which they were made. -/
def InOrder (told : List (Nat × Notice)) : Prop :=
  told.Pairwise fun a b => a.2.listener = b.2.listener → a.1 ≤ b.1

/-- The content that a listener was last told of. -/
def lastContent? (notices : List Notice) (listener : String) : Option DiagnosticSet :=
  ((notices.filter fun n => n.listener = listener).getLast?).map Notice.snapshot

/-- No listener but the last one makes a change when it is told of a content. -/
def OnlyLastReacts (listeners : List Listener) (content : DiagnosticSet) : Prop :=
  ∀ l ∈ listeners.dropLast, l.changes content = []

/-- The notices of a change to some listeners. -/
def announcement (listeners : List Listener) (p : Point) : List (Nat × Notice) :=
  listeners.map fun l => (p.number, ⟨l.name, p.content⟩)

/-- The notices of changes, numbered from one number on, to all listeners. -/
def announcements (listeners : List Listener) (number : Nat) :
    List DiagnosticSet → List (Nat × Notice)
  | [] => []
  | content :: rest =>
    announcement listeners ⟨content, number⟩ ++ announcements listeners (number + 1) rest

section Announcements

variable (listeners : List Listener) (number : Nat)

theorem announcements_append
    (cs ds : List DiagnosticSet) :
    announcements listeners number (cs ++ ds) =
      announcements listeners number cs ++
        announcements listeners (number + cs.length) ds := by
  induction cs generalizing number with
  | nil =>
      rfl
  | cons c cs ih =>
      simp only [List.cons_append, announcements, ih, List.append_assoc, List.length_cons]
      congr 3
      omega

theorem le_number_of_mem_announcements
    {cs : List DiagnosticSet} {n : Nat × Notice}
    (h : n ∈ announcements listeners number cs) :
    number ≤ n.1 := by
  induction cs generalizing number with
  | nil =>
      cases h
  | cons c cs ih =>
      rcases List.mem_append.mp h with hfirst | hrest
      · obtain ⟨l, -, rfl⟩ := List.mem_map.mp hfirst
        exact le_rfl
      · have := ih (number + 1) hrest
        omega

/-- Announcing changes one after another keeps their order. -/
theorem inOrder_announcements
    (cs : List DiagnosticSet) :
    InOrder (announcements listeners number cs) := by
  unfold InOrder
  induction cs generalizing number with
  | nil =>
      exact List.Pairwise.nil
  | cons c cs ih =>
      refine List.pairwise_append.mpr ⟨?_, ih (number + 1), ?_⟩
      · unfold announcement
        rw [List.pairwise_map]
        exact List.pairwise_of_forall fun _ _ _ => le_rfl
      · intro a ha b hb _
        obtain ⟨l, -, rfl⟩ := List.mem_map.mp ha
        have := le_number_of_mem_announcements listeners (number + 1) hb
        simp only
        omega

/-- After announcements every listener was last told of the last content. -/
theorem lastContent?_announcements
    {l : Listener}
    (hl : l ∈ listeners) (cs : List DiagnosticSet) :
    lastContent? ((announcements listeners number cs).map (·.2)) l.name =
      cs.getLast? := by
  rcases List.eq_nil_or_concat cs with rfl | ⟨before, c, rfl⟩
  · rfl
  · rw [List.concat_eq_append, announcements_append, List.getLast?_concat]
    let lastOnes : List Notice :=
      (listeners.map fun l' => (⟨l'.name, c⟩ : Notice)).filter fun n =>
        n.listener = l.name
    have hlast : ∀ n ∈ lastOnes, n.snapshot = c := by
      intro n hn
      obtain ⟨l', -, rfl⟩ := List.mem_map.mp (List.mem_of_mem_filter hn)
      rfl
    have hne : lastOnes ≠ [] := by
      have hmem : (⟨l.name, c⟩ : Notice) ∈ lastOnes :=
        List.mem_filter.mpr ⟨List.mem_map.mpr ⟨l, hl, rfl⟩, by simp⟩
      exact List.ne_nil_of_mem hmem
    have hsplit :
        ((announcements listeners number before ++
          announcements listeners (number + before.length) [c]).map (·.2)).filter
            (fun n => n.listener = l.name) =
        ((announcements listeners number before).map (·.2)).filter
            (fun n => n.listener = l.name) ++ lastOnes := by
      simp [announcements, announcement, lastOnes, Function.comp_def]
    unfold lastContent?
    rw [hsplit, List.getLast?_append_of_ne_nil _ hne, List.getLast?_eq_some_getLast hne,
      Option.map_some,
      hlast _ (List.getLast_mem hne)]

end Announcements

namespace Cascade

variable {listeners : List Listener} {jobs : List Job} {p q : Point} {log : List Entry}

theorem number_le
    (h : Cascade listeners jobs p log q) :
    p.number ≤ q.number := by
  have := h.number_eq
  omega

/-- A listener with others behind it is not the last one. -/
theorem mem_dropLast_of_suffix
    {l : Listener} {behind : List Listener}
    (h : l :: behind <:+ listeners)
    (hbehind : behind ≠ []) :
    l ∈ listeners.dropLast := by
  obtain ⟨before, rfl⟩ := h
  rw [List.dropLast_append_of_ne_nil (by simp), List.dropLast_cons_of_ne_nil hbehind]
  simp

/-- A cascade in which only the last listener reacts tells every listener of every change,
in the order of the changes.  The jobs may begin with calls for the change that led to the
present point. -/
theorem told_eq
    (called : List Listener) (changes : List Change)
    (h : Cascade listeners (tellAll called p ++ changes.map .make) p log q)
    (hcalled : called <:+ listeners)
    (hpresent : called ≠ [] → OnlyLastReacts listeners p.content)
    (hreacts : ∀ content ∈ contents log, OnlyLastReacts listeners content) :
    told log = announcement called p ++
      announcements listeners (p.number + 1) (contents log) := by
  generalize hjobs : tellAll called p ++ changes.map .make = jobs at h
  induction h generalizing called changes with
  | nil p =>
      obtain ⟨htell, -⟩ := List.append_eq_nil_iff.mp hjobs
      obtain rfl := List.map_eq_nil_iff.mp htell
      rfl
  | @make c rest p q r log log' htold hlater ihtold ihlater =>
      obtain ⟨rfl, changes, rfl, rfl⟩ :
          called = [] ∧ ∃ changes' : List Change,
            changes = c :: changes' ∧ rest = changes'.map .make := by
        cases called with
        | cons l behind =>
            cases (List.cons.inj hjobs).1
        | nil =>
            cases changes with
            | nil =>
                cases hjobs
            | cons c' changes =>
                cases hjobs
                exact ⟨rfl, changes, rfl, rfl⟩
      simp only [contents_made, contents_append, List.mem_cons,
        List.mem_append] at hreacts
      have hfirst := ihtold listeners [] List.suffix_rfl (fun _ => hreacts _ (Or.inl rfl))
        (fun content hmem => hreacts content (Or.inr (Or.inl hmem))) (List.append_nil _)
      have hrest := ihlater [] changes List.nil_suffix (fun hne => absurd rfl hne)
        (fun content hmem => hreacts content (Or.inr (Or.inr hmem))) rfl
      have hnumber := htold.number_eq
      simp only [Point.next] at hfirst hnumber
      simp only [told_made, told_append, contents_made, contents_append, announcements,
        announcements_append, hfirst, hrest, hnumber, announcement,
          List.map_nil, List.nil_append,
        List.append_assoc, Point.next, Nat.add_right_comm (p.number + 1) _ 1]
  | @tell number l content rest p q r log log' hreaction hlater ihreaction ihlater =>
      obtain ⟨behind, rfl, rfl, rfl, rfl⟩ :
          ∃ behind : List Listener,
            called = l :: behind ∧ number = p.number ∧ content = p.content ∧
            rest = tellAll behind p ++ changes.map .make := by
        cases called with
        | nil =>
            cases changes <;> cases hjobs
        | cons l' behind =>
            cases hjobs
            exact ⟨behind, rfl, rfl, rfl, rfl⟩
      have honly := hpresent (by simp)
      simp only [contents_told, contents_append, List.mem_append] at hreacts
      have hnumber := hreaction.number_eq
      by_cases hbehind : behind = []
      · -- the last listener: all that it causes comes before the next change
        subst hbehind
        have hfirst :=
          ihreaction [] (l.changes p.content) List.nil_suffix (fun hne => absurd rfl hne)
          (fun content hmem => hreacts content (Or.inl hmem)) rfl
        have hrest := ihlater [] changes List.nil_suffix (fun hne => absurd rfl hne)
          (fun content hmem => hreacts content (Or.inr hmem)) rfl
        simp only [told_told, told_append, contents_told,
          contents_append, announcements_append,
          hfirst, hrest, hnumber, announcement, List.map_nil,
            List.map_cons, List.nil_append,
          List.cons_append, Nat.add_right_comm p.number _ 1]
      · -- another listener: it causes nothing
        have hquiet : l.changes p.content = [] :=
          honly l (mem_dropLast_of_suffix hcalled hbehind)
        rw [reactAll, hquiet] at hreaction
        cases hreaction
        have hrest := ihlater behind changes ((List.suffix_cons l behind).trans hcalled)
          (fun _ => honly) (fun content hmem => hreacts content (Or.inr hmem)) rfl
        simp [hrest, announcement]

/-- A change that a listener makes before others were called is told to them first. -/
theorem not_inOrder_of_reacting
    {l : Listener}
    (h : Cascade listeners (tellAll listeners p) p log q)
    (hl : l ∈ listeners.dropLast)
    (hreacts : l.changes p.content ≠ []) :
    ¬ InOrder (told log) := by
  obtain ⟨before, between, hinit⟩ := List.append_of_mem hl
  have hne : listeners ≠ [] := by
    rintro rfl
    cases hl
  obtain ⟨behind, hsplit, hother⟩ :
      ∃ behind : List Listener,
        listeners = before ++ l :: behind ∧ listeners.getLast hne ∈ behind := by
    refine ⟨between ++ [listeners.getLast hne], ?_, by simp⟩
    have hwhole := List.dropLast_concat_getLast hne
    rw [hinit] at hwhole
    simpa using hwhole.symm
  obtain ⟨c, cs, hchanges⟩ := List.exists_cons_of_ne_nil hreacts
  have hjobs :
      tellAll listeners p =
        tellAll before p ++ (.tell p.number l p.content :: tellAll behind p) := by
    simp [tellAll, hsplit]
  rw [hjobs] at h
  obtain ⟨q₁, log₁, log₂, hbefore, hrest, rfl⟩ := h.split
  cases hrest with
  | tell hreaction hlater =>
      rw [reactAll, hchanges] at hreaction
      cases hreaction with
      | make hnested _ =>
          have hbound := hbefore.number_le
          -- the last listener is told of what `l` made first, and only then of what `l`
          -- reacted to
          have hnewer :=
            hnested.told_mem (List.mem_map.mpr ⟨_, List.getLast_mem hne, rfl⟩)
          have holder := hlater.told_mem (List.mem_map.mpr ⟨_, hother, rfl⟩)
          intro horder
          rw [told_append, told_told, told_append, told_made, told_append] at horder
          have hsecond := (List.pairwise_append.mp horder).2.1
          have hcross := (List.pairwise_append.mp (List.pairwise_cons.mp hsecond).2).2.2
          have hle := hcross _ (List.mem_append_left _ hnewer) _ holder rfl
          simp only [Point.next] at hle
          omega

/-- If the order of changes is kept, only the last listener reacts. -/
theorem not_reacting
    (h : Cascade listeners jobs p log q)
    (horder : InOrder (told log)) :
    ∀ content ∈ contents log, OnlyLastReacts listeners content := by
  induction h with
  | nil p =>
      simp
  | make htold hlater ihtold ihlater =>
      rw [told_made, told_append] at horder
      obtain ⟨hfirst, hrest, -⟩ := List.pairwise_append.mp horder
      intro content hmem
      simp only [contents_made, contents_append, List.mem_cons, List.mem_append] at hmem
      rcases hmem with rfl | hmem | hmem
      · intro l hl
        by_contra hreacts
        exact htold.not_inOrder_of_reacting hl hreacts hfirst
      · exact ihtold hfirst content hmem
      · exact ihlater hrest content hmem
  | tell hreaction hlater ihreaction ihlater =>
      rw [told_told, told_append] at horder
      obtain ⟨hfirst, hrest, -⟩ :=
        List.pairwise_append.mp (List.pairwise_cons.mp horder).2
      intro content hmem
      simp only [contents_told, contents_append, List.mem_append] at hmem
      rcases hmem with hmem | hmem
      · exact ihreaction hfirst content hmem
      · exact ihlater hrest content hmem

end Cascade

section Publications

variable {s : DiagnosticStore} {depth : Nat} {changes : List Change}

/-- The log of changes that are carried out one after another. -/
def Logs (s : DiagnosticStore) (changes : List Change) (log : List Entry) : Prop :=
  ∃ q : Point, Cascade s.listeners (changes.map .make) ⟨s.current, 0⟩ log q

/-- What every listener was last told of is what the store holds. -/
def UpToDate (e : Publication) : Prop :=
  ∀ l ∈ e.store.listeners, ∀ content ∈ lastContent? e.notices l.name,
    content = e.store.current

/-- Let listeners do nothing but make changes, and let some changes come to their end.
Then there is one log of all changes that were made, and it gives the notices.  Every
listener heard of the changes in their order, and last of what the store holds, exactly if
no listener but the last one reacts to the content after any of these changes. -/
theorem inOrder_and_upToDate_iff
    (honly : ∀ l ∈ s.listeners, l.OnlyPublishes)
    (hend : (s.publishAllWithin depth changes).crash = none) :
    ∃ log : List Entry,
      s.Logs changes log ∧ (∀ log' : List Entry, s.Logs changes log' → log' = log) ∧
      notices log = (s.publishAllWithin depth changes).notices ∧
      (InOrder (told log) ∧ UpToDate (s.publishAllWithin depth changes)
        ↔
      ∀ content ∈ contents log, OnlyLastReacts s.listeners content) := by
  obtain ⟨log, q, hcascade, hnotices, hcurrent, hlisteners⟩ :=
    cascade_publishAllWithin honly hend 0
  rw [List.nil_append] at hnotices
  refine ⟨log, ⟨q, hcascade⟩, ?_, hnotices.symm, ?_⟩
  · rintro log' ⟨q', hcascade'⟩
    exact (hcascade'.unique hcascade).1
  · constructor
    · rintro ⟨horder, -⟩
      exact hcascade.not_reacting horder
    · intro hreacts
      have htold : told log = announcements s.listeners 1 (contents log) :=
        hcascade.told_eq [] changes List.nil_suffix (fun hne => absurd rfl hne) hreacts
      refine ⟨?_, ?_⟩
      · rw [htold]
        exact inOrder_announcements s.listeners 1 (contents log)
      · intro l hl content hlast
        rw [hlisteners] at hl
        rw [hnotices, notices, htold,
          lastContent?_announcements s.listeners 1 hl] at hlast
        rw [hcurrent, hcascade.content_eq, Option.mem_def.mp hlast]
        rfl

/-- A listener that deletes a file as soon as it is told of it. -/
def deleter (name path : String) : Listener :=
  ⟨name, fun content => if content.contains path then [.publish (.delete path)] else []⟩

/-- A listener that does nothing. -/
def viewer (name : String) : Listener :=
  ⟨name, fun _ => []⟩

theorem onlyPublishes_deleter
    (name path : String) :
    (deleter name path).OnlyPublishes := by
  intro content r hr
  simp only [deleter] at hr
  split at hr
  · exact ⟨.delete path, List.mem_singleton.mp hr⟩
  · cases hr

theorem onlyPublishes_viewer
    (name : String) :
    (viewer name).OnlyPublishes := by
  intro content r hr
  cases hr

/-- A listener that deletes a file, behind one that does nothing. -/
theorem inOrder_and_upToDate_iff_deleter_last :
    let s : DiagnosticStore := ⟨.empty, [viewer "B", deleter "A" "a.sv"]⟩
    let changes : List Change :=
      [.replace (.ofList [⟨"a.sv", 0, 0, "m", linterName, .error, linterName⟩]), .clear]
    (s.publishAllWithin maxDepth changes).crash = none ∧
    ∃ log : List Entry,
      s.Logs changes log ∧ (∀ log' : List Entry, s.Logs changes log' → log' = log) ∧
      notices log = (s.publishAllWithin maxDepth changes).notices ∧
      (InOrder (told log) ∧ UpToDate (s.publishAllWithin maxDepth changes)
        ↔
      ∀ content ∈ contents log, OnlyLastReacts s.listeners content) := by
  intro s changes
  have hend : (s.publishAllWithin maxDepth changes).crash = none := by
    decide +kernel
  have honly : ∀ l ∈ s.listeners, l.OnlyPublishes := by
    simp only [s, List.forall_mem_cons, List.not_mem_nil, false_imp_iff,
      implies_true, and_true]
    exact ⟨onlyPublishes_viewer "B", onlyPublishes_deleter "A" "a.sv"⟩
  exact ⟨hend, inOrder_and_upToDate_iff honly hend⟩

/-- Two listeners, of which the first deletes what is shown: the second hears of the
deletion first, and is left with what is no longer shown. -/
theorem overtaken_change :
    let s : DiagnosticStore := ⟨.empty, [deleter "A" "a.sv", viewer "B"]⟩
    let e := s.publish
      (.replace (.ofList [⟨"a.sv", 0, 0, "m", linterName, .error, linterName⟩]))
    e.crash = none ∧
    e.notices.map (fun n => (n.listener, n.snapshot.files)) =
      [("A", ["a.sv"]), ("A", []), ("B", []), ("B", ["a.sv"])] ∧
    (lastContent? e.notices "B").map DiagnosticSet.files = some ["a.sv"] ∧
    e.store.current.files = [] := by
  decide +kernel

end Publications

end DiagnosticStore
end HdlLint
