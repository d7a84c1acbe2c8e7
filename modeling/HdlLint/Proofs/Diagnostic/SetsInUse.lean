import HdlLint.Diagnostic.HeldSets
import HdlLint.Proofs.Diagnostic.GroupedSet

/-!
# Sets in use behave as values

Sets in use name lists that grow in place, so an addition could be seen where it was not
made.  It never is: no list is named twice, and what is done with sets in use can be told
as if each of them were a value of its own.

* `Apart`: no list is named twice, and every list that is named is there.
* `views_add` and `views_hold`: what is seen after one call, if lists are named apart.
* `views_after`: what is seen after any calls, and that every file of a set has one group.
-/

namespace HdlLint

namespace DiagnosticSet

/-- Assigning a group keeps the files apart. -/
theorem nodup_files_assign
    {groups : List (String × List Diagnostic)}
    (h : (groups.map (·.1)).Nodup) (file : String) (ds : List Diagnostic) :
    ((assign file ds groups).map (·.1)).Nodup ∧
      ∀ f : String, f ∈ (assign file ds groups).map (·.1) ↔
        f ∈ groups.map (·.1) ∨ f = file := by
  induction groups with
  | nil =>
      simp [assign]
  | cons g rest ih =>
      rw [List.map_cons, List.nodup_cons] at h
      obtain ⟨hnodup, hfiles⟩ := ih h.2
      unfold assign
      split
      · rename_i hfile
        refine ⟨by simpa using h, fun f => ?_⟩
        simp only [List.map_cons, List.mem_cons, hfile]
        tauto
      · rename_i hfile
        rw [List.map_cons, List.nodup_cons]
        refine ⟨⟨fun hmem => ?_, hnodup⟩, fun f => ?_⟩
        · rcases (hfiles g.1).mp hmem with hrest | heq
          · exact h.1 hrest
          · exact hfile heq
        · simp only [List.map_cons, List.mem_cons, hfiles]
          tauto

/-- A set with given groups has every file once. -/
theorem nodup_files_ofGroups
    (groups : List (String × List Diagnostic)) :
    (ofGroups groups).files.Nodup := by
  unfold ofGroups files
  simp only
  induction groups using List.reverseRecOn with
  | nil =>
      exact List.nodup_nil
  | append_singleton groups g ih =>
      rw [List.foldl_concat]
      exact (nodup_files_assign ih g.1 g.2).1

end DiagnosticSet

/-- What a call makes of sets that are values. -/
def SetCall.onValues (sets : List DiagnosticSet) : SetCall → List DiagnosticSet
  | .make groups => sets ++ [.ofGroups groups]
  | .add i d => sets.modify i fun s => s.add d
  | .copy i => sets ++ sets[i]?.toList

namespace HeldSets

/-- The lists that a set names. -/
def listsOf (numbers : ListNumbers) : List Nat :=
  numbers.map (·.2)

/-- No list is named twice, and every list that is named is there. -/
structure Apart (h : HeldSets) : Prop where
  nodup : ∀ numbers ∈ h.sets, (listsOf numbers).Nodup
  bound : ∀ numbers ∈ h.sets, ∀ n ∈ listsOf numbers, n < h.lists.length
  disjoint : ∀ (i j : Nat) (numbers others : ListNumbers),
    i ≠ j → h.sets[i]? = some numbers →
    h.sets[j]? = some others → ∀ n ∈ listsOf numbers, n ∉ listsOf others

section OneSet

variable {h : HeldSets} {numbers : ListNumbers} {d : Diagnostic}

theorem view_files
    (h : HeldSets) (numbers : ListNumbers) :
    (h.view numbers).files = numbers.map (·.1) := by
  simp [view, DiagnosticSet.files]

/-- New lists behind the others change nothing that is seen. -/
theorem view_append
    (hbound : ∀ n ∈ listsOf numbers, n < h.lists.length) (more : List (List Diagnostic))
    (sets : List ListNumbers) :
    HeldSets.view ⟨h.lists ++ more, sets⟩ numbers = h.view numbers := by
  unfold view
  refine congrArg DiagnosticSet.mk (List.map_congr_left fun x hx => ?_)
  have hlist : x.2 < h.lists.length := hbound x.2 (List.mem_map_of_mem hx)
  simp [List.getD_eq_getElem?_getD, List.getElem?_append_left hlist]

/-- A list that grows is seen in no set that does not name it. -/
theorem view_modify_of_not_mem
    {n : Nat}
    (hn : n ∉ listsOf numbers) (f : List Diagnostic → List Diagnostic)
    (sets : List ListNumbers) :
    HeldSets.view ⟨h.lists.modify n f, sets⟩ numbers = h.view numbers := by
  unfold view
  refine congrArg DiagnosticSet.mk (List.map_congr_left fun x hx => ?_)
  have hne : n ≠ x.2 := by
    rintro rfl
    exact hn (List.mem_map_of_mem hx)
  simp [List.getD_eq_getElem?_getD, hne]

/-- Putting a diagnostic into the list of its file adds it to the set. -/
theorem view_modify_of_lookup
    {n : Nat}
    (hnodup : (listsOf numbers).Nodup)
    (hbound : ∀ n ∈ listsOf numbers, n < h.lists.length)
    (hlookup : numbers.lookup d.path = some n) (sets : List ListNumbers) :
    HeldSets.view ⟨h.lists.modify n (· ++ [d]), sets⟩ numbers =
      (h.view numbers).add d := by
  unfold DiagnosticSet.add
  refine congrArg DiagnosticSet.mk ?_
  induction numbers with
  | nil =>
      cases hlookup
  | cons x rest ih =>
      obtain ⟨file, m⟩ := x
      have hrest : m ∉ listsOf rest ∧ (listsOf rest).Nodup := List.nodup_cons.mp hnodup
      have hm : m < h.lists.length := hbound m List.mem_cons_self
      rw [List.lookup_cons] at hlookup
      by_cases hfile : d.path = file
      · -- the first group of the file grows, and no other names its list
        subst hfile
        rw [beq_self_eq_true] at hlookup
        obtain rfl := Option.some.inj hlookup
        have hothers := congrArg DiagnosticSet.groups
            (view_modify_of_not_mem (h := h) hrest.1 (· ++ [d]) sets)
        simp only [view] at hothers
        simp only [view, List.map_cons, hothers]
        simp [DiagnosticSet.addTo, List.getD_eq_getElem?_getD, hm]
      · have hne : (d.path == file) = false := beq_eq_false_iff_ne.mpr hfile
        rw [hne] at hlookup
        have hothers :=
          ih hrest.2 (fun k hk => hbound k (List.mem_cons_of_mem _ hk)) hlookup
        have hnm : n ≠ m := by
          rintro rfl
          obtain ⟨front, back, rfl, -⟩ := List.lookup_eq_some_iff.mp hlookup
          exact hrest.1 (by simp [listsOf])
        simp only [view] at hothers
        simp only [view, List.map_cons, hothers]
        simp [DiagnosticSet.addTo, Ne.symm hfile, List.getD_eq_getElem?_getD, hnm]

/-- A new list for a file that has none adds the diagnostic to the set. -/
theorem view_concat_of_lookup
    (hbound : ∀ n ∈ listsOf numbers, n < h.lists.length)
    (hlookup : numbers.lookup d.path = none) (sets : List ListNumbers) :
    HeldSets.view ⟨h.lists ++ [[d]], sets⟩ (numbers ++ [(d.path, h.lists.length)]) =
      (h.view numbers).add d := by
  have hfile : d.path ∉ (h.view numbers).groups.map (·.1) := by
    intro hmem
    rw [show (h.view numbers).groups.map (·.1) =
      numbers.map (·.1) from view_files h numbers] at hmem
    obtain ⟨x, hx, hpath⟩ := List.mem_map.mp hmem
    exact absurd hpath.symm (by simpa using List.lookup_eq_none_iff.mp hlookup x hx)
  have hbefore := congrArg DiagnosticSet.groups (view_append (h := h) hbound [[d]] sets)
  simp only [view] at hbefore
  rw [DiagnosticSet.add, DiagnosticSet.addTo_of_not_mem hfile]
  simp only [view, List.map_append, hbefore]
  simp [List.getD_eq_getElem?_getD]

/-- The groups that are seen of a set that was given new lists for them. -/
theorem view_hold
    (h : HeldSets) (groups : List (String × List Diagnostic)) (sets : List ListNumbers) :
    HeldSets.view ⟨h.lists ++ groups.map (·.2), sets⟩
        ((groups.map (·.1)).zip (List.range' h.lists.length groups.length)) =
          ⟨groups⟩ := by
  unfold view
  refine congrArg DiagnosticSet.mk (List.ext_getElem (by simp) fun k hk hk' => ?_)
  simp [List.getD_eq_getElem?_getD, hk']

end OneSet

section Calls

variable {h : HeldSets}

theorem Apart.of_getElem?
    (ha : h.Apart)
    {i : Nat} {numbers : ListNumbers}
    (hi : h.sets[i]? = some numbers) :
    (listsOf numbers).Nodup ∧ ∀ n ∈ listsOf numbers, n < h.lists.length :=
  ⟨ha.nodup _ (List.mem_of_getElem? hi), ha.bound _ (List.mem_of_getElem? hi)⟩

theorem views_getElem?
    (h : HeldSets) (i : Nat) :
    h.views[i]? = h.sets[i]?.map h.view :=
  List.getElem?_map

/-- A set that is held anew is seen behind the others. -/
theorem views_hold
    (ha : h.Apart) (groups : List (String × List Diagnostic)) :
    (h.hold groups).views = h.views ++ [⟨groups⟩] := by
  unfold views hold
  rw [List.map_append, List.map_singleton, view_hold]
  congr 1
  exact List.map_congr_left fun numbers hnumbers =>
    view_append (ha.bound numbers hnumbers) _ _

/-- An addition is seen in the set to which it was made, and in no other. -/
theorem views_add
    (ha : h.Apart) (i : Nat) (d : Diagnostic) :
    (h.add i d).views = h.views.modify i fun s => s.add d := by
  unfold add
  cases hi : h.sets[i]? with
  | none =>
      have hnone : h.views[i]? = none := by
        rw [views_getElem?, hi]
        rfl
      rw [List.modify_eq_self (List.getElem?_eq_none_iff.mp hnone)]
  | some numbers =>
      obtain ⟨hnodup, hbound⟩ := ha.of_getElem? hi
      refine List.ext_getElem? fun j => ?_
      rw [List.getElem?_modify, views_getElem?]
      simp only
      cases hlookup : numbers.lookup d.path with
      | some n =>
          have hn : n ∈ listsOf numbers := by
            obtain ⟨front, back, rfl, -⟩ := List.lookup_eq_some_iff.mp hlookup
            simp [listsOf]
          rw [views_getElem?]
          simp only
          by_cases hij : i = j
          · subst hij
            simp [hi, view_modify_of_lookup hnodup hbound hlookup]
          · cases hj : h.sets[j]? with
            | none =>
                simp
            | some others =>
                simp [hij, view_modify_of_not_mem
                  (ha.disjoint i j numbers others hij hi hj n hn)]
      | none =>
          rw [views_getElem?]
          simp only [List.getElem?_set]
          by_cases hij : i = j
          · subst hij
            obtain ⟨hlength, -⟩ := List.getElem?_eq_some_iff.mp hi
            rw [hi, if_pos rfl, if_pos hlength]
            simp [view_concat_of_lookup hbound hlookup]
          · cases hj : h.sets[j]? with
            | none =>
                simp [hij]
            | some others =>
                simp [hij, view_append (ha.of_getElem? hj).2]

/-- The lists of a set that is held anew. -/
theorem listsOf_zip
    (files : List String) (first : Nat) :
    listsOf (files.zip (List.range' first files.length)) =
      List.range' first files.length := by
  unfold listsOf
  exact List.map_snd_zip (by simp)

/-- Lists stay apart if the sets stay the same but for one, which names new lists besides
its own. -/
theorem apart_of_sets
    (ha : h.Apart)
    {lists : List (List Diagnostic)} {sets : List ListNumbers} {k : Nat}
    (hlength : h.lists.length ≤ lists.length)
    (hothers : ∀ j : Nat, j ≠ k → sets[j]? = h.sets[j]?)
    (hnew : ∀ numbers : ListNumbers, sets[k]? = some numbers →
      (listsOf numbers).Nodup ∧ ∀ n ∈ listsOf numbers, n < lists.length ∧
        (h.lists.length ≤ n ∨ ∃ old : ListNumbers, h.sets[k]? = some old ∧
          n ∈ listsOf old)) :
    HeldSets.Apart ⟨lists, sets⟩ := by
  have hold : ∀ (j : Nat) (numbers : ListNumbers), j ≠ k → sets[j]? = some numbers →
      (listsOf numbers).Nodup ∧ ∀ n ∈ listsOf numbers, n < h.lists.length := by
    intro j numbers hj hnumbers
    exact ha.of_getElem? (hothers j hj ▸ hnumbers)
  -- a list of the set that changed is new, or was its own before
  have hmixed : ∀ (j : Nat) (numbers others : ListNumbers),
      j ≠ k → sets[k]? = some numbers →
      sets[j]? = some others → ∀ n ∈ listsOf numbers, n ∉ listsOf others := by
    intro j numbers others hj hnumbers hothers' n hn hn'
    rcases ((hnew numbers hnumbers).2 n hn).2 with hfresh | ⟨old, hold', hmem⟩
    · exact absurd ((hold j others hj hothers').2 n hn') (Nat.not_lt.mpr hfresh)
    · exact ha.disjoint k j old others (Ne.symm hj) hold'
        (hothers j hj ▸ hothers') n hmem hn'
  constructor
  · intro numbers hnumbers
    obtain ⟨j, hj⟩ := List.getElem?_of_mem hnumbers
    by_cases hjk : j = k
    · subst hjk
      exact (hnew numbers hj).1
    · exact (hold j numbers hjk hj).1
  · intro numbers hnumbers n hn
    obtain ⟨j, hj⟩ := List.getElem?_of_mem hnumbers
    by_cases hjk : j = k
    · subst hjk
      exact ((hnew numbers hj).2 n hn).1
    · exact ((hold j numbers hjk hj).2 n hn).trans_le hlength
  · intro i j numbers others hij hi hj n hn hn'
    by_cases hik : i = k
    · subst hik
      exact hmixed j numbers others (Ne.symm hij) hi hj n hn hn'
    · by_cases hjk : j = k
      · subst hjk
        exact hmixed i others numbers hik hj hi n hn' hn
      · exact ha.disjoint i j numbers others hij (hothers i hik ▸ hi)
          (hothers j hjk ▸ hj) n hn hn'

theorem apart_hold
    (ha : h.Apart) (groups : List (String × List Diagnostic)) :
    (h.hold groups).Apart := by
  refine apart_of_sets (k := h.sets.length) ha (by simp)
    (fun j hj => ?_) fun numbers hnumbers => ?_
  · rcases Nat.lt_or_gt_of_ne hj with hlt | hgt
    · exact List.getElem?_append_left hlt
    · rw [List.getElem?_eq_none (by simpa using hgt),
        List.getElem?_eq_none (Nat.le_of_lt hgt)]
  · rw [List.getElem?_concat_length, Option.some.injEq] at hnumbers
    have hlists := listsOf_zip (groups.map (·.1)) h.lists.length
    rw [List.length_map, hnumbers] at hlists
    rw [hlists]
    refine ⟨List.nodup_range', fun n hn => ?_⟩
    obtain ⟨hfirst, hlast⟩ := List.mem_range'_1.mp hn
    exact ⟨by simpa using hlast, Or.inl hfirst⟩

theorem apart_add
    (ha : h.Apart) (i : Nat) (d : Diagnostic) :
    (h.add i d).Apart := by
  unfold add
  cases hi : h.sets[i]? with
  | none =>
      exact ha
  | some numbers =>
      obtain ⟨hnodup, hbound⟩ := ha.of_getElem? hi
      simp only
      cases numbers.lookup d.path with
      | some n =>
          refine apart_of_sets (k := i) ha (by simp)
            (fun j _ => rfl) fun numbers' hnumbers' => ?_
          obtain rfl := Option.some.inj (hi.symm.trans hnumbers')
          exact ⟨hnodup, fun m hm =>
            ⟨by simpa using hbound m hm, Or.inr ⟨numbers, hi, hm⟩⟩⟩
      | none =>
          refine apart_of_sets (k := i) ha (by simp)
            (fun j hj => ?_) fun numbers' hnumbers' => ?_
          · rw [List.getElem?_set_ne (Ne.symm hj)]
          · obtain ⟨hlength, -⟩ := List.getElem?_eq_some_iff.mp hi
            rw [List.getElem?_set_self hlength, Option.some.injEq] at hnumbers'
            subst hnumbers'
            have hlists : listsOf (numbers ++ [(d.path, h.lists.length)]) =
                listsOf numbers ++ [h.lists.length] := by
              simp [listsOf]
            rw [hlists]
            have hfresh : h.lists.length ∉ listsOf numbers :=
              fun hmem => Nat.lt_irrefl _ (hbound _ hmem)
            refine ⟨List.concat_eq_append ▸ hnodup.concat hfresh, fun m hm => ?_⟩
            rcases List.mem_append.mp hm with hold | hnew
            · exact ⟨by simpa using Nat.lt_succ_of_lt (hbound m hold),
                Or.inr ⟨numbers, hi, hold⟩⟩
            · obtain rfl := List.mem_singleton.mp hnew
              exact ⟨by simp, Or.inl le_rfl⟩

/-- What is seen after a call is what the call makes of what was seen before, and lists
stay apart. -/
theorem views_call
    (ha : h.Apart) (c : SetCall) :
    (h.call c).views = c.onValues h.views ∧ (h.call c).Apart := by
  cases c with
  | make groups =>
      exact ⟨views_hold ha _, apart_hold ha _⟩
  | add i d =>
      exact ⟨views_add ha i d, apart_add ha i d⟩
  | copy i =>
      simp only [call, copy, SetCall.onValues, views_getElem?]
      cases hi : h.sets[i]? with
      | none =>
          exact ⟨(List.append_nil _).symm, ha⟩
      | some numbers =>
          exact ⟨views_hold ha _, apart_hold ha _⟩

/-- Every file of a set in use has one group. -/
theorem nodup_files_onValues
    {sets : List DiagnosticSet}
    (hsets : ∀ s ∈ sets, s.files.Nodup) (c : SetCall) :
    ∀ s ∈ c.onValues sets, s.files.Nodup := by
  intro s hs
  cases c with
  | make groups =>
      rcases List.mem_append.mp hs with hold | hnew
      · exact hsets s hold
      · obtain rfl := List.mem_singleton.mp hnew
        exact DiagnosticSet.nodup_files_ofGroups groups
  | add i d =>
      obtain ⟨j, hj⟩ := List.getElem?_of_mem hs
      rw [SetCall.onValues, List.getElem?_modify] at hj
      obtain ⟨old, hold, rfl⟩ := Option.map_eq_some_iff.mp hj
      have hnodup := hsets old (List.mem_of_getElem? hold)
      split
      · exact DiagnosticSet.nodup_files_addTo hnodup
      · exact hnodup
  | copy i =>
      rcases List.mem_append.mp hs with hold | hnew
      · exact hsets s hold
      · exact hsets s (List.mem_of_getElem? (Option.mem_toList.mp hnew))

/-- Sets in use behave as values. -/
theorem views_after
    (calls : List SetCall) :
    (after calls).views = calls.foldl SetCall.onValues [] ∧ (after calls).Apart ∧
      ∀ s ∈ (after calls).views, s.files.Nodup := by
  induction calls using List.reverseRecOn with
  | nil =>
      exact ⟨rfl, ⟨by rintro _ ⟨⟩, by rintro _ ⟨⟩, by rintro i j _ _ - ⟨⟩⟩, by rintro _ ⟨⟩⟩
  | append_singleton calls c ih =>
      obtain ⟨hviews, happart, hfiles⟩ := ih
      obtain ⟨hcall, happart'⟩ := views_call happart c
      have hafter : after (calls ++ [c]) = (after calls).call c :=
        List.foldl_concat call _ c calls
      rw [hafter, List.foldl_concat, ← hviews, hcall]
      exact ⟨rfl, happart', nodup_files_onValues hfiles c⟩

end Calls

end HeldSets

end HdlLint
