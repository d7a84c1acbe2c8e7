import HdlLint.Proofs.Store.CalledListeners
import HdlLint.Proofs.Store.ChangeOrder

/-!
# Subscriptions and their ends

A subscription returns a function of its own that ends it.  That function ends the first
subscription of its listener, whichever that is, each time it is called.  So the listeners
that a change calls are those of the subscriptions still standing only as long as no call
ends another subscription: an earlier one of the same listener, with other listeners in
between, or one that still stands when the function is called again.

* `notifiesInOrder_publish`: the listeners that a change calls are those of the store.
* `Subscriptions.notifiesStanding_call_iff`: what one call does.
* `Subscriptions.endsOwnOnly_after_of_nodup`: listeners that are subscribed once.
* `Subscriptions.notifies_standing_iff`: the exact condition for calls one after another.
* `Subscriptions.ends_other_subscriptions`: two sequences of calls after which other
  listeners are notified.
-/

namespace HdlLint
namespace DiagnosticStore

/-- The names of the subscribed listeners in order. -/
def listenerNames (s : DiagnosticStore) : List String :=
  s.listeners.map Listener.name

/-- A publication notifies the named listeners in order, each by one call, up to the first
failure. -/
def NotifiesInOrder (names : List String) (e : Publication) : Prop :=
  ∃ called : List Call,
    InTurn called e.notices ∧
    called.map (fun call => call.listener.name) <+: names ∧
    (e.crash = none → called.map (fun call => call.listener.name) = names)

/-- The listeners that a change notifies are those of the store. -/
theorem notifiesInOrder_publish
    (s : DiagnosticStore) (c : Change) :
    NotifiesInOrder s.listenerNames (s.publish c) := by
  obtain ⟨called, uncalled, hlisteners, hend, hturn⟩ := inTurn_publish s c
  have hnames : (calls (c.apply s.current) called).map (fun call => call.listener.name) =
      called.map Listener.name := by
    rw [← map_listener_calls (c.apply s.current) called, List.map_map, map_listener_calls]
    rfl
  refine ⟨_, hturn, ?_, ?_⟩
  · rw [hnames, listenerNames, hlisteners, List.map_append]
    exact List.prefix_append _ _
  · intro hcrash
    rw [hnames, listenerNames, hlisteners, hend hcrash, List.append_nil]

/-- A call that changes who is subscribed: a subscription, or the function that the
subscription of this number returned. -/
inductive SubscriptionCall where
  | subscribe (l : Listener)
  | unsubscribe (number : Nat)

/-- A store, the listeners of all subscriptions made so far, and the numbers of those
subscriptions whose own function was called. -/
structure Subscriptions where
  store : DiagnosticStore
  made : List Listener
  ended : List Nat

namespace Subscriptions

/-- No subscription so far. -/
def fresh (content : DiagnosticSet) : Subscriptions :=
  ⟨⟨content, []⟩, [], []⟩

/-- Carries out a call.  There is no function of a subscription that was not made yet. -/
def call (s : Subscriptions) : SubscriptionCall → Subscriptions
  | .subscribe l => ⟨s.store.subscribe l, s.made ++ [l], s.ended⟩
  | .unsubscribe number =>
    match s.made[number]? with
    | some l => ⟨s.store.unsubscribe l.name, s.made, number :: s.ended⟩
    | none => s

/-- Carries out calls one after another. -/
def after (s : Subscriptions) (cs : List SubscriptionCall) : Subscriptions :=
  cs.foldl call s

/-- The subscriptions whose own function was not called, with their numbers, in the order
in which they were made. -/
def standing (s : Subscriptions) : List (Listener × Nat) :=
  s.made.zipIdx.filter fun m => m.2 ∉ s.ended

/-- The names of the listeners of the standing subscriptions. -/
def standingNames (s : Subscriptions) : List String :=
  s.standing.map fun m => m.1.name

/-- The listeners of the standing subscriptions are the ones that a change notifies. -/
def NotifiesStanding (s : Subscriptions) : Prop :=
  s.store.listenerNames = s.standingNames

/-- A call ends no subscription but its own.  A function that is called again belongs to a
listener without a standing subscription; one that is called for the first time belongs to
a listener whose earlier standing subscriptions have no other listener behind them. -/
def EndsOwnOnly (s : Subscriptions) : SubscriptionCall → Prop
  | .subscribe _ => True
  | .unsubscribe number =>
    ∀ l ∈ s.made[number]?,
      (number ∈ s.ended → l.name ∉ s.standingNames) ∧
      (number ∉ s.ended →
        (s.standing.filter fun m => m.2 < number).Pairwise fun m m' => m.1.name = l.name →
          m'.1.name = l.name)

section Erasing

variable {name : String}

theorem append_cons_eq_cons_append_iff
    (front behind : List String) :
    front ++ name :: behind = name :: (front ++ behind) ↔
      ∀ other ∈ front, other = name := by
  induction front with
  | nil =>
      simp
  | cons other front ih =>
      rw [List.cons_append, List.cons_append, List.cons.injEq, List.forall_mem_cons, ← ih]
      constructor
      · rintro ⟨rfl, h⟩
        exact ⟨rfl, h⟩
      · rintro ⟨rfl, h⟩
        exact ⟨rfl, h⟩

/-- To erase the first occurrence of a name is to remove this one, exactly if behind an
earlier one nothing else comes before it. -/
theorem erase_append_cons_iff
    (front behind : List String) :
    (front ++ name :: behind).erase name = front ++ behind ↔
      front.Pairwise fun earlier later => earlier = name → later = name := by
  induction front with
  | nil =>
      simp
  | cons other front ih =>
      rw [List.cons_append, List.cons_append, List.pairwise_cons]
      by_cases hother : other = name
      · subst hother
        rw [List.erase_cons_head, append_cons_eq_cons_append_iff]
        constructor
        · intro hall
          exact ⟨fun later hlater _ => hall later hlater,
            List.Pairwise.imp_of_mem (fun _ hlater _ _ => hall _ hlater)
              (List.pairwise_of_forall fun _ _ => trivial)⟩
        · rintro ⟨hall, -⟩ later hlater
          exact hall later hlater rfl
      · rw [List.erase_cons_tail (by simpa using hother), List.cons.injEq, ih]
        simp [hother]

end Erasing

section Standing

variable {s : Subscriptions} {number : Nat} {l : Listener}

/-- Only subscriptions that were made have ended. -/
def WellNumbered (s : Subscriptions) : Prop :=
  ∀ number ∈ s.ended, number < s.made.length

theorem call_unsubscribe_of_some
    (hmade : s.made[number]? = some l) :
    s.call (.unsubscribe number) =
      ⟨s.store.unsubscribe l.name, s.made, number :: s.ended⟩ := by
  rw [call, hmade]

theorem call_unsubscribe_of_none
    (hmade : s.made[number]? = none) :
    s.call (.unsubscribe number) = s := by
  rw [call, hmade]

theorem endsOwnOnly_unsubscribe_iff
    (hmade : s.made[number]? = some l) :
    s.EndsOwnOnly (.unsubscribe number) ↔
      (number ∈ s.ended → l.name ∉ s.standingNames) ∧
      (number ∉ s.ended →
        (s.standing.filter fun m => m.2 < number).Pairwise fun m m' => m.1.name = l.name →
          m'.1.name = l.name) := by
  simp [EndsOwnOnly, hmade]

theorem WellNumbered.call
    (h : s.WellNumbered) (c : SubscriptionCall) :
    (s.call c).WellNumbered := by
  cases c with
  | subscribe l =>
      intro number hnumber
      have := h number hnumber
      simp only [Subscriptions.call, List.length_append, List.length_singleton]
      omega
  | unsubscribe number =>
      cases hmade : s.made[number]? with
      | none =>
          rwa [call_unsubscribe_of_none hmade]
      | some l =>
          rw [call_unsubscribe_of_some hmade]
          intro number' hnumber'
          rcases List.mem_cons.mp hnumber' with rfl | hold
          · exact (List.getElem?_eq_some_iff.mp hmade).1
          · exact h number' hold

theorem WellNumbered.after
    (h : s.WellNumbered) (cs : List SubscriptionCall) :
    (s.after cs).WellNumbered := by
  induction cs generalizing s with
  | nil =>
      exact h
  | cons c rest ih =>
      exact ih (h.call c)

theorem listenerNames_unsubscribe
    (s : DiagnosticStore) (name : String) :
    (s.unsubscribe name).listenerNames = s.listenerNames.erase name := by
  unfold listenerNames unsubscribe
  rw [List.erase_eq_eraseP, List.eraseP_map]
  refine congrArg (List.map Listener.name)
    (congrArg (fun p => List.eraseP p s.listeners) (funext fun l => ?_))
  exact decide_eq_decide.mpr eq_comm

/-- A new subscription is the last one. -/
theorem standing_subscribe
    (h : s.WellNumbered) (l : Listener) :
    (s.call (.subscribe l)).standing = s.standing ++ [(l, s.made.length)] := by
  have hnew : s.made.length ∉ s.ended := fun hmem => lt_irrefl _ (h _ hmem)
  unfold standing
  rw [call, List.zipIdx_append, List.filter_append, Nat.zero_add]
  simp [hnew]

/-- A subscription whose function was called stands no longer. -/
theorem standing_unsubscribe
    (hmade : s.made[number]? = some l) :
    (s.call (.unsubscribe number)).standing =
      s.standing.filter fun m => m.2 ≠ number := by
  rw [call_unsubscribe_of_some hmade]
  simp [standing, List.filter_filter, not_or]

theorem filter_standing_of_ended
    (hended : number ∈ s.ended) :
    (s.standing.filter fun m => m.2 ≠ number) = s.standing := by
  rw [List.filter_eq_self]
  intro m hm
  have hstands := (List.mem_filter.mp hm).2
  simp only [decide_eq_true_eq] at hstands ⊢
  rintro rfl
  exact hstands hended

theorem pairwise_standing
    (s : Subscriptions) :
    s.standing.Pairwise fun m m' => m.2 < m'.2 := by
  refine List.Pairwise.filter _ ?_
  rw [← List.pairwise_map (f := Prod.snd), List.zipIdx_map_snd]
  exact List.pairwise_lt_range'

theorem mem_standing
    (hmade : s.made[number]? = some l)
    (hstands : number ∉ s.ended) :
    (l, number) ∈ s.standing :=
  List.mem_filter.mpr ⟨List.mem_zipIdx_iff_getElem?.mpr hmade, by simpa using hstands⟩

/-- The standing subscriptions before one of them and behind it. -/
theorem exists_split_standing
    (h : (l, number) ∈ s.standing) :
    ∃ front behind : List (Listener × Nat),
      s.standing = front ++ (l, number) :: behind ∧
      (s.standing.filter fun m => m.2 < number) = front ∧
      (s.standing.filter fun m => m.2 ≠ number) = front ++ behind := by
  obtain ⟨front, behind, hsplit⟩ := List.append_of_mem h
  have hsorted := s.pairwise_standing
  rw [hsplit] at hsorted
  obtain ⟨-, hrest, hcross⟩ := List.pairwise_append.mp hsorted
  have hfront : ∀ m ∈ front, m.2 < number := fun m hm => hcross m hm _ List.mem_cons_self
  have hbehind : ∀ m ∈ behind, number < m.2 := (List.pairwise_cons.mp hrest).1
  refine ⟨front, behind, hsplit, ?_, ?_⟩
  · rw [hsplit, List.filter_append, List.filter_cons_of_neg (by simp),
      List.filter_eq_self.mpr,
      List.filter_eq_nil_iff.mpr, List.append_nil]
    · intro m hm
      simpa using (hbehind m hm).le
    · intro m hm
      simpa using hfront m hm
  · rw [hsplit, List.filter_append, List.filter_cons_of_neg (by simp),
      List.filter_eq_self.mpr, List.filter_eq_self.mpr]
    · intro m hm
      simpa using (hbehind m hm).ne'
    · intro m hm
      simpa using (hfront m hm).ne

/-- A call keeps the listeners that a change notifies those of the standing subscriptions,
exactly if it ends its own only. -/
theorem notifiesStanding_call_iff
    (hnumbered : s.WellNumbered)
    (hs : s.NotifiesStanding) (c : SubscriptionCall) :
    (s.call c).NotifiesStanding ↔ s.EndsOwnOnly c := by
  unfold NotifiesStanding at hs ⊢
  cases c with
  | subscribe l =>
      refine iff_of_true ?_ trivial
      rw [standingNames, standing_subscribe hnumbered,
        List.map_append, ← standingNames, ← hs]
      simp [call, DiagnosticStore.subscribe, listenerNames]
  | unsubscribe number =>
      cases hmade : s.made[number]? with
      | none =>
          rw [call_unsubscribe_of_none hmade]
          refine iff_of_true hs ?_
          rintro l hl
          cases hmade.symm.trans hl
      | some l =>
          have hstore : (s.call (.unsubscribe number)).store =
              s.store.unsubscribe l.name := by
            rw [call_unsubscribe_of_some hmade]
          rw [endsOwnOnly_unsubscribe_iff hmade, hstore, listenerNames_unsubscribe, hs,
            standingNames, standingNames,
            standing_unsubscribe hmade]
          by_cases hended : number ∈ s.ended
          · -- the function is called again: its subscription stands no longer
            rw [filter_standing_of_ended hended, List.erase_eq_self_iff]
            simp [hended]
          · obtain ⟨front, behind, hsplit, hfront, hleft⟩ :=
              exists_split_standing (mem_standing hmade hended)
            rw [hleft, hfront, hsplit, List.map_append, List.map_append, List.map_cons,
              erase_append_cons_iff,
              List.pairwise_map]
            simp [hended]

end Standing

section Runs

variable {s : Subscriptions}

theorem after_append
    (s : Subscriptions) (cs later : List SubscriptionCall) :
    s.after (cs ++ later) = (s.after cs).after later :=
  List.foldl_append

theorem after_concat
    (s : Subscriptions) (cs : List SubscriptionCall) (c : SubscriptionCall) :
    s.after (cs ++ [c]) = (s.after cs).call c :=
  s.after_append cs [c]

/-- After all first parts of some calls the standing subscriptions are notified, exactly
if each of the calls ends its own only. -/
theorem notifiesStanding_prefixes_iff
    (hnumbered : s.WellNumbered)
    (hs : s.NotifiesStanding) (cs : List SubscriptionCall) :
    (∀ before : List SubscriptionCall, before <+: cs →
      (s.after before).NotifiesStanding) ↔
      ∀ (before : List SubscriptionCall) (c : SubscriptionCall),
        before ++ [c] <+: cs → (s.after before).EndsOwnOnly c := by
  constructor
  · intro h before c hbefore
    have hwithout := h before ((List.prefix_append before [c]).trans hbefore)
    have hwith := h (before ++ [c]) hbefore
    rw [after_concat] at hwith
    exact (notifiesStanding_call_iff (hnumbered.after before) hwithout c).mp hwith
  · intro h before
    induction before using List.reverseRecOn with
    | nil =>
        exact fun _ => hs
    | append_singleton before c ih =>
        intro hbefore
        have hwithout := ih ((List.prefix_append before [c]).trans hbefore)
        rw [after_concat]
        exact (notifiesStanding_call_iff (hnumbered.after before) hwithout c).mpr
          (h before c hbefore)

/-- Subscriptions of different listeners: no function ends another subscription than its
own. -/
theorem endsOwnOnly_of_nodup
    (h : (s.made.map Listener.name).Nodup) (c : SubscriptionCall) :
    s.EndsOwnOnly c := by
  cases c with
  | subscribe l =>
      exact trivial
  | unsubscribe number =>
      intro l hmade
      -- a standing subscription of this listener is the one of this number
      have hown : ∀ m ∈ s.standing, m.1.name = l.name → m.2 = number := by
        intro m hm hname
        have hm' : s.made[m.2]? = some m.1 :=
          List.mem_zipIdx_iff_getElem?.mp (List.mem_filter.mp hm).1
        have hlength : m.2 < (s.made.map Listener.name).length := by
          rw [List.length_map]
          exact (List.getElem?_eq_some_iff.mp hm').1
        refine (List.getElem?_inj hlength h).mp ?_
        rw [List.getElem?_map, List.getElem?_map, hm', Option.mem_def.mp hmade,
          Option.map_some, Option.map_some, hname]
      constructor
      · intro hended hmem
        obtain ⟨m, hm, hname⟩ := List.mem_map.mp hmem
        have hstands := (List.mem_filter.mp hm).2
        rw [hown m hm hname] at hstands
        exact absurd hended (by simpa using hstands)
      · intro _
        refine List.Pairwise.imp_of_mem ?_ (s.pairwise_standing.filter _)
        intro m m' hm _ _ hname
        obtain ⟨hm, hlt⟩ := List.mem_filter.mp hm
        have := hown m hm hname
        simp only [decide_eq_true_eq] at hlt
        omega

/-- A function that is called again does nothing where it ends no other subscription. -/
theorem store_call_again
    {number : Nat}
    (hs : s.NotifiesStanding)
    (hown : s.EndsOwnOnly (.unsubscribe number))
    (hended : number ∈ s.ended) :
    (s.call (.unsubscribe number)).store = s.store := by
  cases hmade : s.made[number]? with
  | none =>
      rw [call_unsubscribe_of_none hmade]
  | some l =>
      have hgone : l.name ∉ s.store.listenerNames := by
        rw [hs]
        exact (hown l hmade).1 hended
      rw [call_unsubscribe_of_some hmade]
      simp only [DiagnosticStore.unsubscribe]
      rw [List.eraseP_of_forall_not]
      rintro l' hl' hname
      exact hgone (List.mem_map.mpr ⟨l', hl', by simpa using hname⟩)

theorem made_prefix_after
    (s : Subscriptions) (cs : List SubscriptionCall) :
    s.made <+: (s.after cs).made := by
  induction cs generalizing s with
  | nil =>
      exact List.prefix_rfl
  | cons c rest ih =>
      refine List.IsPrefix.trans ?_ (ih (s.call c))
      cases c with
      | subscribe l =>
          exact List.prefix_append s.made [l]
      | unsubscribe number =>
          cases hmade : s.made[number]? with
          | none =>
              rw [call_unsubscribe_of_none hmade]
          | some l =>
              rw [call_unsubscribe_of_some hmade]

/-- Among calls by which no listener is subscribed twice, none ends another subscription
than its own. -/
theorem endsOwnOnly_after_of_nodup
    {cs before : List SubscriptionCall}
    (h : ((s.after cs).made.map Listener.name).Nodup)
    (hbefore : before <+: cs) (c : SubscriptionCall) :
    (s.after before).EndsOwnOnly c := by
  obtain ⟨rest, rfl⟩ := hbefore
  have hmade : (s.after before).made <+: (s.after (before ++ rest)).made := by
    rw [after_append]
    exact made_prefix_after (s.after before) rest
  exact endsOwnOnly_of_nodup (h.sublist (hmade.sublist.map _)) c

/-- A change calls the subscribed listeners in order, up to the first failure.  They are
those of the standing subscriptions after all first parts of some calls, exactly if each
of the calls ends its own subscription only.  This is so if no listener is subscribed
twice, and then a function that is called again does nothing. -/
theorem notifies_standing_iff
    (content : DiagnosticSet) (cs : List SubscriptionCall) :
    let s := fresh content
    (∀ (before : List SubscriptionCall) (c : Change), before <+: cs →
      NotifiesInOrder (s.after before).store.listenerNames
        ((s.after before).store.publish c)) ∧
    ((∀ before : List SubscriptionCall, before <+: cs →
      (s.after before).NotifiesStanding) ↔
      ∀ (before : List SubscriptionCall) (c : SubscriptionCall),
        before ++ [c] <+: cs → (s.after before).EndsOwnOnly c) ∧
    (((s.after cs).made.map Listener.name).Nodup →
      ∀ before : List SubscriptionCall, before <+: cs →
        (s.after before).NotifiesStanding ∧
        ∀ number ∈ (s.after before).ended,
          ((s.after before).call (.unsubscribe number)).store =
            (s.after before).store) := by
  intro s
  have hiff := notifiesStanding_prefixes_iff (s := s) (by rintro number ⟨⟩) rfl cs
  refine ⟨fun before c _ => notifiesInOrder_publish _ c, hiff, ?_⟩
  intro hnodup before hbefore
  have hstanding : (s.after before).NotifiesStanding := by
    refine hiff.mpr ?_ before hbefore
    intro earlier c hearlier
    exact endsOwnOnly_after_of_nodup hnodup
      ((List.prefix_append earlier [c]).trans hearlier) c
  exact ⟨hstanding, fun number hended =>
    store_call_again hstanding (endsOwnOnly_after_of_nodup hnodup hbefore _) hended⟩

/-- Of two listeners the first one is unsubscribed by calling the function twice. -/
theorem notifies_standing_iff_called_twice :
    let cs : List SubscriptionCall :=
      [.subscribe (viewer "A"), .subscribe (viewer "B"), .unsubscribe 0, .unsubscribe 0]
    let s := (fresh .empty).after cs
    (s.made.map Listener.name).Nodup ∧ s.NotifiesStanding ∧ s.standingNames = ["B"] := by
  intro cs s
  have hnodup : (s.made.map Listener.name).Nodup := by
    decide +kernel
  obtain ⟨-, -, h⟩ := notifies_standing_iff .empty cs
  exact ⟨hnodup, (h hnodup cs List.prefix_rfl).1, by decide +kernel⟩

/-- A listener that is subscribed twice is notified no more after two calls of the second
function, and behind another one after a single call of it. -/
theorem ends_other_subscriptions :
    let twice := (fresh .empty).after
      [.subscribe (viewer "A"), .subscribe (viewer "A"), .unsubscribe 1, .unsubscribe 1]
    let behind := (fresh .empty).after
      [.subscribe (viewer "A"), .subscribe (viewer "B"),
        .subscribe (viewer "A"), .unsubscribe 2]
    (twice.standingNames = ["A"] ∧ (twice.store.publish .clear).notices = []) ∧
    (behind.standingNames = ["A", "B"] ∧
      (behind.store.publish .clear).notices.map Notice.listener = ["B", "A"]) := by
  decide +kernel

end Runs

end Subscriptions
end DiagnosticStore
end HdlLint
