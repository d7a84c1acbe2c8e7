import HdlLint.Proofs.Value.TextKeys
import HdlLint.Value.Merge

/-!
# Merged maps

Deep merging is done by two functions, of which one also looks into maps that contain
themselves.  Both put the entries of the upper map into the lower one, one by one, and
combine each with what its key holds already; `EntriesMerged` says just this, and `Merged`
what either function gives.

* `EntriesMerged.lookup?_kept`, `EntriesMerged.lookup?_put`: what the outcome holds under
  a key.
* `EntriesMerged.exists_key_iff`: its keys are those of the two maps.
* `merge?_of_acyclic`: values of which none contains itself can always be merged.
* `Merged.entries`, `Merged.replaced`: maps are merged entry by entry, and anything else
  replaces what it is laid over.
-/

namespace HdlLint
namespace Value

/-- A value that can be looked into as a map. -/
def IsMap (v : Value) : Prop :=
  ∃ entries : List (Value × Value), v.unfold = .map entries

/-- The third entries are the first ones with the second ones put in, each combined with
what its key holds already. -/
inductive EntriesMerged (combined : Value → Value → Value → Prop) :
    List (Value × Value) → List (Value × Value) → List (Value × Value) → Prop
  | nil
      (bs : List (Value × Value)) :
      EntriesMerged combined bs [] bs
  | fresh
      {k v : Value} {bs es rs : List (Value × Value)}
      (hold : Value.lookup? k bs = none)
      (hrest : EntriesMerged combined (assign k v bs) es rs) :
      EntriesMerged combined bs ((k, v) :: es) rs
  | onto
      {k v old x : Value} {bs es rs : List (Value × Value)}
      (hold : Value.lookup? k bs = some old)
      (hvalue : combined old v x)
      (hrest : EntriesMerged combined (assign k x bs) es rs) :
      EntriesMerged combined bs ((k, v) :: es) rs

/-- The third value is what merging the second one over the first one gives. -/
def Merged (base override r : Value) : Prop :=
  (base.hasCycle = false ∧ override.hasCycle = false ∧ r = base.merge override) ∨
    ∃ depth : Nat, mergeWithin depth base override = some r

/-- At most one entry has the key, in whatever form. -/
def HeldOnce (k : Value) (entries : List (Value × Value)) : Prop :=
  entries.Pairwise fun e e' => sameKey e.1 k = true → sameKey e'.1 k = false

section Assignments

variable {k v : Value} {entries : List (Value × Value)}

theorem HeldOnce.of_cons
    {e : Value × Value}
    (h : HeldOnce k (e :: entries)) :
    HeldOnce k entries :=
  (List.pairwise_cons.mp h).2

/-- Behind the entry with the key there is no other. -/
theorem HeldOnce.lookup?_rest
    {k' : Value}
    (h : HeldOnce k ((k', v) :: entries))
    (hkey : sameKey k' k = true) :
    Value.lookup? k entries = none :=
  lookup?_eq_none_iff.mpr fun e he => (List.pairwise_cons.mp h).1 e he hkey

theorem heldOnce_text
    (h : (textKeys entries).Nodup) (s : String) :
    HeldOnce (.text s) entries := by
  refine (List.pairwise_filterMap.mp h).imp ?_
  intro e e' hne hkey
  refine Bool.eq_false_iff.mpr fun hkey' => ?_
  exact hne s (text?_eq_some_iff.mpr (sameKey_text_right.mp hkey)) s
    (text?_eq_some_iff.mpr (sameKey_text_right.mp hkey')) rfl

/-- An assignment adds no key but the one assigned to, up to the form of the key. -/
theorem exists_key_assign_iff
    {P : Value → Prop}
    (hP : ∀ a b : Value, sameKey a b = true → (P a ↔ P b)) :
    (∃ e ∈ assign k v entries, P e.1) ↔ (∃ e ∈ entries, P e.1) ∨ P k := by
  induction entries with
  | nil =>
      simp [assign]
  | cons e rest ih =>
      obtain ⟨k', v'⟩ := e
      rw [assign]
      split
      · rename_i hsame
        simp only [List.mem_cons, exists_eq_or_imp, hP k' k hsame]
        exact (or_iff_left_of_imp Or.inl).symm
      · simp only [List.mem_cons, exists_eq_or_imp, ih, or_assoc]

theorem hasCycle_of_lookup?
    (h : anyCycleEntry entries = false)
    (hv : Value.lookup? k entries = some v) :
    v.hasCycle = false := by
  induction entries with
  | nil =>
      cases hv
  | cons e rest ih =>
      obtain ⟨k', v'⟩ := e
      simp only [anyCycleEntry, Bool.or_eq_false_iff] at h
      rw [Value.lookup?] at hv
      split at hv
      · obtain rfl := Option.some.inj hv
        exact h.1.2
      · exact ih h.2 hv

theorem anyCycleEntry_assign
    (h : anyCycleEntry entries = false)
    (hk : k.hasCycle = false)
    (hv : v.hasCycle = false) :
    anyCycleEntry (assign k v entries) = false := by
  induction entries with
  | nil =>
      simp [assign, anyCycleEntry, hk, hv]
  | cons e rest ih =>
      obtain ⟨k', v'⟩ := e
      simp only [anyCycleEntry, Bool.or_eq_false_iff] at h
      rw [assign]
      split
      · simp [anyCycleEntry, h.1.1, hv, h.2]
      · simp [anyCycleEntry, h.1.1, h.1.2, ih h.2]

end Assignments

namespace EntriesMerged

variable {combined : Value → Value → Value → Prop} {bs es rs : List (Value × Value)}

/-- A key into which nothing is put holds what it held. -/
theorem lookup?_kept
    {k : Value}
    (h : EntriesMerged combined bs es rs)
    (hk : Value.lookup? k es = none) :
    Value.lookup? k rs = Value.lookup? k bs := by
  induction h with
  | nil bs =>
      rfl
  | @fresh k' v bs es rs hold hrest ih =>
      rw [Value.lookup?] at hk
      split at hk
      · cases hk
      · rename_i hkey
        rw [ih hk, lookup?_assign, if_neg hkey]
  | @onto k' old v x bs es rs hold hvalue hrest ih =>
      rw [Value.lookup?] at hk
      split at hk
      · cases hk
      · rename_i hkey
        rw [ih hk, lookup?_assign, if_neg hkey]

/-- A key into which something is put once holds this, combined with what it held. -/
theorem lookup?_put
    {k v : Value}
    (h : EntriesMerged combined bs es rs)
    (honce : HeldOnce k es)
    (hv : Value.lookup? k es = some v) :
    (Value.lookup? k bs = none ∧ Value.lookup? k rs = some v) ∨
      ∃ old x : Value, Value.lookup? k bs = some old ∧ combined old v x ∧
        Value.lookup? k rs = some x := by
  induction h with
  | nil bs =>
      cases hv
  | @fresh k' y bs es rs hold hrest ih =>
      rw [Value.lookup?] at hv
      split at hv
      · rename_i hkey
        obtain rfl := Option.some.inj hv
        refine Or.inl ⟨(lookup?_congr hkey bs).symm.trans hold, ?_⟩
        rw [hrest.lookup?_kept (honce.lookup?_rest hkey), lookup?_assign, if_pos hkey]
      · rename_i hkey
        have hbs := lookup?_assign k' y k bs
        rw [if_neg hkey] at hbs
        rw [← hbs]
        exact ih honce.of_cons hv
  | @onto k' y old x bs es rs hold hvalue hrest ih =>
      rw [Value.lookup?] at hv
      split at hv
      · rename_i hkey
        obtain rfl := Option.some.inj hv
        refine Or.inr ⟨old, x, (lookup?_congr hkey bs).symm.trans hold, hvalue, ?_⟩
        rw [hrest.lookup?_kept (honce.lookup?_rest hkey), lookup?_assign, if_pos hkey]
      · rename_i hkey
        have hbs := lookup?_assign k' x k bs
        rw [if_neg hkey] at hbs
        rw [← hbs]
        exact ih honce.of_cons hv

/-- The keys of the outcome are those of the two maps, up to their form. -/
theorem exists_key_iff
    {P : Value → Prop}
    (hP : ∀ a b : Value, sameKey a b = true → (P a ↔ P b))
    (h : EntriesMerged combined bs es rs) :
    (∃ e ∈ rs, P e.1) ↔ (∃ e ∈ bs, P e.1) ∨ ∃ e ∈ es, P e.1 := by
  induction h with
  | nil bs =>
      simp
  | fresh hold hrest ih =>
      simp only [ih, exists_key_assign_iff hP, List.mem_cons, exists_eq_or_imp, or_assoc]
  | onto hold hvalue hrest ih =>
      simp only [ih, exists_key_assign_iff hP, List.mem_cons, exists_eq_or_imp, or_assoc]

theorem nodup_textKeys
    (h : EntriesMerged combined bs es rs)
    (hbs : (textKeys bs).Nodup) :
    (textKeys rs).Nodup := by
  induction h with
  | nil bs =>
      exact hbs
  | fresh hold hrest ih =>
      exact ih (nodup_textKeys_assign hbs _ _)
  | onto hold hvalue hrest ih =>
      exact ih (nodup_textKeys_assign hbs _ _)

end EntriesMerged

section Merging

variable {base override r : Value} {bs es rs : List (Value × Value)}

theorem overlay_none
    (v : Value) :
    overlay none v = v := by
  cases v <;> rfl

/-- Merging without looking for cycles puts the entries in one by one. -/
theorem entriesMerged_mergeEntries
    (bs es : List (Value × Value)) :
    EntriesMerged (fun old v x => x = overlay (some old) v) bs es
      (mergeEntries bs es) := by
  induction es generalizing bs with
  | nil =>
      rw [mergeEntries]
      exact .nil bs
  | cons e rest ih =>
      obtain ⟨k, v⟩ := e
      rw [mergeEntries]
      cases hold : Value.lookup? k bs with
      | none =>
          rw [overlay_none]
          exact .fresh hold (ih _)
      | some old =>
          exact .onto hold rfl (ih _)

/-- So does merging that looks into cycles. -/
theorem entriesMerged_of_foldlM
    {depth : Nat}
    (h :
      es.foldlM
        (fun acc (k, v) => do
          let v ← match Value.lookup? k acc with
            | some old => mergeWithin depth old v
            | none => some v
          pure (assign k v acc)) bs = some rs) :
    EntriesMerged (fun old v x => mergeWithin depth old v = some x) bs es rs := by
  induction es generalizing bs with
  | nil =>
      obtain rfl := Option.some.inj h
      exact .nil _
  | cons e rest ih =>
      obtain ⟨k, v⟩ := e
      obtain ⟨acc, hfirst, hrest⟩ := Option.bind_eq_some_iff.mp h
      simp only at hfirst
      split at hfirst
      · rename_i old hold
        obtain ⟨x, hx, hacc⟩ := Option.bind_eq_some_iff.mp hfirst
        obtain rfl := Option.some.inj hacc
        exact .onto hold hx (ih hrest)
      · rename_i hnone
        obtain rfl := Option.some.inj hfirst
        exact .fresh hnone (ih hrest)

mutual

/-- Where no map contains itself, none does after merging. -/
theorem hasCycle_overlay
    (old : Option Value)
    (hold : ∀ o : Value, old = some o → o.hasCycle = false) :
    ∀ v : Value, v.hasCycle = false → (overlay old v).hasCycle = false
  | .map es, hv => by
      rw [hasCycle] at hv
      unfold overlay
      split
      · rename_i bs
        have hbs := hold (.map bs) rfl
        rw [hasCycle] at hbs ⊢
        exact anyCycleEntry_mergeEntries bs hbs es hv
      · rw [hasCycle]
        exact hv
  | .list _, hv => hv
  | .tuple _, hv => hv
  | .set _, hv => hv
  | .cycle _ _, hv => hv
  | .back _, hv => hv
  | .null, _ => rfl
  | .bool _, _ => rfl
  | .int _, _ => rfl
  | .real _, _ => rfl
  | .text _, _ => rfl
  | .bytes _, _ => rfl
  | .date _, _ => rfl
  | .time _, _ => rfl

theorem anyCycleEntry_mergeEntries
    (bs : List (Value × Value))
    (hbs : anyCycleEntry bs = false) :
    ∀ es : List (Value × Value), anyCycleEntry es = false →
      anyCycleEntry (mergeEntries bs es) = false
  | [], _ => by
      rw [mergeEntries]
      exact hbs
  | (k, v) :: rest, hes => by
      simp only [anyCycleEntry, Bool.or_eq_false_iff] at hes
      have hvalue :=
        hasCycle_overlay (lookup? k bs) (fun o ho => hasCycle_of_lookup? hbs ho) v hes.1.2
      rw [mergeEntries]
      exact anyCycleEntry_mergeEntries _
        (anyCycleEntry_assign hbs hes.1.1 hvalue) rest hes.2

end

/-- Values of which none contains itself can be merged, and again. -/
theorem merge?_of_acyclic
    (hbase : base.hasCycle = false)
    (hoverride : override.hasCycle = false) :
    ∃ v : Value, base.merge? override = some v ∧ v.hasCycle = false := by
  refine ⟨_, merge?_of_hasCycle_eq_false hbase hoverride,
    hasCycle_overlay _ ?_ override hoverride⟩
  rintro o ⟨⟩
  exact hbase

theorem merged_of_merge?
    (h : base.merge? override = some r) :
    Merged base override r := by
  rw [merge?] at h
  split at h
  · exact Or.inr ⟨_, h⟩
  · rename_i hno
    obtain ⟨hbase, hoverride⟩ :=
      Bool.or_eq_false_iff.mp (Bool.eq_false_of_not_eq_true hno)
    exact Or.inl ⟨hbase, hoverride, (Option.some.inj h).symm⟩

/-- Maps are merged entry by entry, and what is under the same textual key in both is
merged in turn. -/
theorem Merged.entries
    (h : Merged base override r)
    (hbase : base.unfold = .map bs)
    (hoverride : override.unfold = .map es) :
    ∃ (rs : List (Value × Value)) (combined : Value → Value → Value → Prop),
      r = .map rs ∧ EntriesMerged combined bs es rs ∧
        ∀ k old v x : Value, Value.lookup? k bs = some old → Value.lookup? k es = some v →
          combined old v x → Merged old v x := by
  rcases h with ⟨hb, ho, rfl⟩ | ⟨depth, h⟩
  · rw [unfold_of_hasCycle_eq_false hb] at hbase
    rw [unfold_of_hasCycle_eq_false ho] at hoverride
    subst hbase hoverride
    rw [hasCycle] at hb ho
    refine ⟨mergeEntries bs es, _, ?_, entriesMerged_mergeEntries bs es, ?_⟩
    · rw [merge, overlay]
    · rintro k old v x hold hv rfl
      exact Or.inl ⟨hasCycle_of_lookup? hb hold, hasCycle_of_lookup? ho hv, rfl⟩
  · cases depth with
    | zero =>
        cases h
    | succ depth =>
        rw [mergeWithin, hbase, hoverride] at h
        obtain ⟨rs, hrs, hr⟩ := Option.bind_eq_some_iff.mp h
        exact ⟨rs, _, (Option.some.inj hr).symm, entriesMerged_of_foldlM hrs,
          fun _ _ _ _ _ _ hx => Or.inr ⟨depth, hx⟩⟩

theorem Merged.isMap
    (h : Merged base override r)
    (hbase : base.IsMap)
    (hoverride : override.IsMap) :
    r.IsMap := by
  obtain ⟨bs, hbs⟩ := hbase
  obtain ⟨es, hes⟩ := hoverride
  obtain ⟨rs, _, rfl, _⟩ := h.entries hbs hes
  exact ⟨rs, rfl⟩

/-- Something that is no map, or that lies over no map, replaces what was there. -/
theorem Merged.replaced
    (h : Merged base override r)
    (hno : ¬ (base.IsMap ∧ override.IsMap)) :
    r = override := by
  rcases h with ⟨hb, ho, rfl⟩ | ⟨depth, h⟩
  · cases override with
    | map es =>
        rw [merge, overlay]
        intro bs hbs
        obtain rfl := Option.some.inj hbs
        exact hno ⟨⟨bs, rfl⟩, ⟨es, rfl⟩⟩
    | _ => rfl
  · cases depth with
    | zero =>
        cases h
    | succ depth =>
        rw [mergeWithin] at h
        split at h
        · rename_i bs es hbs hes
          exact absurd ⟨⟨bs, hbs⟩, ⟨es, hes⟩⟩ hno
        · exact (Option.some.inj h).symm

/-- An empty map adds nothing. -/
theorem merge?_empty
    (bs : List (Value × Value)) :
    (Value.map bs).merge? (.map []) = some (.map bs) := by
  rw [merge?]
  split
  · rfl
  · rfl

end Merging

end Value
end HdlLint
