import HdlLint.Proofs.Value.Equality
import HdlLint.Proofs.Value.NestedMaps

/-!
# Merged maps along paths

Deep merging is known by what its outcome holds under paths of keys.  Where the upper map
holds something that is no map, this is what the outcome holds, and nothing is below it;
where it holds nothing and nothing is in the way, the lower map shows; and where it holds
a map, the keys of both are there, those of the lower one first.

* `Merged.at?_below`: one step of a path leads from merged maps to what is merged below
  them.
* `Merged.shows`: what the outcome holds under paths.
* `overlay_again`: laying a value over a second time changes nothing.
* `merged_along_paths`: all of this for the merging that the program does.
-/

namespace HdlLint
namespace Value

/-- The keys of one map, and behind them those of another that are new. -/
def joinedKeys (old new : List Value) : List Value :=
  old ++ new.filter fun k => old.all fun k' => !sameKey k' k

/-- The keys of the map that a value holds under a path, if there is one. -/
def keysAt (v : Value) (path : List Value) : List Value :=
  ((v.at? path).map mapKeys).getD []

/-- What one map laid over another shows along paths. -/
structure ShowsMerged (base override r : Value) : Prop where
  /-- What is no map replaces what was there. -/
  replaced : ∀ (path : List Value) (v : Value), override.at? path = some v →
    ¬ v.IsMap → r.at? path = some v
  /-- Below it there is nothing. -/
  hidden :
    ∀ (path below : List Value) (v : Value), override.at? path = some v →
      ¬ v.IsMap → below ≠ [] →
      r.at? (path ++ below) = none
  /-- Where nothing is laid over it and nothing is in the way, the lower map shows. -/
  kept :
    ∀ path : List Value, override.at? path = none →
      (∀ (above : List Value) (v : Value), above <+: path →
        override.at? above = some v → v.IsMap) →
        r.at? path = base.at? path
  /-- Maps are joined, with the keys of the lower one first. -/
  joined :
    ∀ (path : List Value) (v : Value), override.at? path = some v → v.IsMap →
      ∃ x : Value, r.at? path = some x ∧ x.IsMap ∧
        x.mapKeys = joinedKeys (base.keysAt path) v.mapKeys

section Keys

variable {bs es rs : List (Value × Value)} {combined : Value → Value → Value → Prop}

theorem DistinctEntries.heldOnce
    (h : DistinctEntries es) (k : Value) :
    HeldOnce k es := by
  refine h.apart.imp ?_
  intro e e' hne hkey
  refine Bool.eq_false_iff.mpr fun hkey' => ?_
  rw [sameKey_trans hkey (sameKey_symm hkey')] at hne
  cases hne

instance (entries : List (Value × Value)) : Decidable (DistinctEntries entries) :=
  decidable_of_iff ((∀ e ∈ entries, e.1.isKey = true) ∧
    entries.Pairwise fun e e' => sameKey e.1 e'.1 = false)
    ⟨fun h => ⟨h.1, h.2⟩, fun h => ⟨h.isKey, h.apart⟩⟩

theorem DistinctEntries.of_cons
    {e : Value × Value}
    (h : DistinctEntries (e :: es)) :
    DistinctEntries es :=
  ⟨fun x hx => h.isKey x (List.mem_cons_of_mem e hx), (List.pairwise_cons.mp h.apart).2⟩

/-- A key that is there already is not new. -/
theorem joinedKeys_cons_of_lookup?
    {k old : Value}
    (h : lookup? k bs = some old) (new : List Value) :
    joinedKeys (keys bs) (k :: new) = joinedKeys (keys bs) new := by
  obtain ⟨k', hmem, hkey⟩ := exists_of_lookup? h
  have hthere : ((keys bs).all fun k' => !sameKey k' k) = false := by
    rw [List.all_eq_false]
    exact ⟨k', List.mem_map_of_mem hmem, by simp [hkey]⟩
  rw [joinedKeys, joinedKeys, List.filter_cons, hthere, if_neg Bool.false_ne_true]

/-- A new key comes behind the old ones. -/
theorem joinedKeys_cons_of_none
    {k v : Value} {new : List Value}
    (h : lookup? k bs = none)
    (hnew : ∀ k' ∈ new, sameKey k k' = false) :
    joinedKeys (keys bs) (k :: new) = joinedKeys (keys (bs ++ [(k, v)])) new := by
  have hnone : ((keys bs).all fun k' => !sameKey k' k) = true := by
    rw [List.all_eq_true]
    rintro k' hk'
    obtain ⟨e, he, rfl⟩ := List.mem_map.mp hk'
    simp [lookup?_eq_none_iff.mp h e he]
  have hkeys : keys (bs ++ [(k, v)]) = keys bs ++ [k] := by
    rw [keys, List.map_append]
    rfl
  have hfilter :
      (new.filter fun x => (keys bs ++ [k]).all fun k' => !sameKey k' x) =
        new.filter fun x => (keys bs).all fun k' => !sameKey k' x := by
    refine List.filter_congr fun x hx => ?_
    simp [List.all_append, hnew x hx]
  rw [joinedKeys, joinedKeys, List.filter_cons, if_pos hnone, hkeys,
    hfilter, List.append_assoc]
  rfl

/-- The keys of the outcome: those of the lower map in their order, and then the new ones
in theirs. -/
theorem EntriesMerged.keys_eq
    (h : EntriesMerged combined bs es rs)
    (hes : DistinctEntries es) :
    keys rs = joinedKeys (keys bs) (keys es) := by
  induction h with
  | nil bs =>
      simp [joinedKeys, keys]
  | @fresh k v bs es rs hold hrest ih =>
      have hnew : ∀ k' ∈ keys es, sameKey k k' = false := by
        rintro k' hk'
        obtain ⟨e, he, rfl⟩ := List.mem_map.mp hk'
        exact (List.pairwise_cons.mp hes.apart).1 e he
      rw [ih hes.of_cons, assign_of_lookup?_eq_none hold]
      exact (joinedKeys_cons_of_none hold hnew).symm
  | @onto k v old x bs es rs hold hvalue hrest ih =>
      rw [ih hes.of_cons, keys_assign_of_lookup? hold]
      exact (joinedKeys_cons_of_lookup? hold (keys es)).symm

end Keys

section Steps

variable {base override r : Value}

/-- One step of a path: either the lower map shows, or what the upper one holds there,
merged with what it lies over. -/
theorem Merged.at?_below
    (h : Merged base override r)
    (hbase : base.IsMap)
    (hoverride : override.IsNestedMap)
    (k : Value) :
    ((∀ path, override.at? (k :: path) = none) ∧
      ∀ path, r.at? (k :: path) = base.at? (k :: path)) ∨
      ∃ v : Value, v.KeepsKeysApart ∧ (∀ path, override.at? (k :: path) = v.at? path) ∧
        (((∀ path, base.at? (k :: path) = none) ∧
          ∀ path, r.at? (k :: path) = v.at? path) ∨
          ∃ old x : Value, Merged old v x ∧
            (∀ path, base.at? (k :: path) = old.at? path) ∧
            ∀ path, r.at? (k :: path) = x.at? path) := by
  obtain ⟨bs, hbs⟩ := hbase
  obtain ⟨⟨es, hes⟩, hapart⟩ := hoverride
  have hbelow := hapart.unfold
  rw [hes] at hbelow
  have hdistinct : DistinctEntries es := by
    rw [KeepsKeysApart] at hbelow
    exact hbelow.1
  obtain ⟨rs, combined, rfl, hmerged, hcombined⟩ := h.entries hbs hes
  have hrs : (Value.map rs).unfold = .map rs := rfl
  simp only [at?_cons hbs, at?_cons hes, at?_cons hrs]
  cases hv : lookup? k es with
  | none =>
      rw [hmerged.lookup?_kept hv]
      exact Or.inl ⟨fun _ => rfl, fun _ => rfl⟩
  | some v =>
      refine Or.inr ⟨v, hbelow.of_lookup? hv, fun _ => rfl, ?_⟩
      rcases hmerged.lookup?_put (hdistinct.heldOnce k) hv with
        ⟨hold, hr⟩ | ⟨old, x, hold, hx, hr⟩
      · rw [hold, hr]
        exact Or.inl ⟨fun _ => rfl, fun _ => rfl⟩
      · rw [hold, hr]
        exact Or.inr ⟨old, x, hcombined k old v x hold hv hx, fun _ => rfl, fun _ => rfl⟩

theorem Merged.at?_replaced
    {path : List Value} {v : Value}
    (h : Merged base override r)
    (hapart : override.KeepsKeysApart)
    (hv : override.at? path = some v)
    (hno : ¬ v.IsMap) :
    r.at? path = some v := by
  induction path generalizing base override r with
  | nil =>
      obtain rfl : override = v := Option.some.inj hv
      rw [h.replaced fun hboth => hno hboth.2]
      rfl
  | cons k path ih =>
      by_cases hbase : base.IsMap
      · have hoverride : override.IsNestedMap := ⟨isMap_of_at?_cons hv, hapart⟩
        rcases h.at?_below hbase hoverride k with
          ⟨hnone, -⟩ | ⟨w, hw, hat, ⟨-, hr⟩ | ⟨old, x, hx, -, hr⟩⟩
        · rw [hnone] at hv
          cases hv
        · rw [hr, ← hat, hv]
        · rw [hat] at hv
          rw [hr]
          exact ih hx hw hv
      · rw [h.replaced fun hboth => hbase hboth.1, hv]

theorem Merged.at?_kept
    {path : List Value}
    (h : Merged base override r)
    (hapart : override.KeepsKeysApart)
    (hnone : override.at? path = none)
    (hmaps : ∀ (above : List Value) (v : Value), above <+: path →
      override.at? above = some v → v.IsMap) :
    r.at? path = base.at? path := by
  induction path generalizing base override r with
  | nil =>
      cases hnone
  | cons k path ih =>
      have hmap : override.IsMap := hmaps [] override List.nil_prefix rfl
      by_cases hbase : base.IsMap
      · rcases h.at?_below hbase ⟨hmap, hapart⟩ k with ⟨-, hr⟩ | ⟨w, hw, hat, hold⟩
        · exact hr path
        · rw [hat] at hnone
          have hbelow : ∀ (above : List Value) (v : Value),
              above <+: path → w.at? above = some v → v.IsMap := by
            intro above v habove hv
            exact hmaps (k :: above) v (List.cons_prefix_cons.mpr ⟨rfl, habove⟩)
              ((hat above).trans hv)
          rcases hold with ⟨hold, hr⟩ | ⟨old, x, hx, hold, hr⟩
          · rw [hr, hold, hnone]
          · rw [hr, hold]
            exact ih hx hw hnone hbelow
      · rw [h.replaced fun hboth => hbase hboth.1, hnone, at?_cons_of_not_isMap hbase]

theorem joinedKeys_nil
    (new : List Value) :
    joinedKeys [] new = new := by
  simp [joinedKeys]

theorem Merged.at?_joined
    {path : List Value} {v : Value}
    (h : Merged base override r)
    (hapart : override.KeepsKeysApart)
    (hv : override.at? path = some v)
    (hmap : v.IsMap) :
    ∃ x : Value, r.at? path = some x ∧ x.IsMap ∧
      x.mapKeys = joinedKeys (base.keysAt path) v.mapKeys := by
  induction path generalizing base override r with
  | nil =>
      obtain rfl : override = v := Option.some.inj hv
      have hkeysAt : base.keysAt [] = base.mapKeys := rfl
      refine ⟨r, rfl, ?_⟩
      rw [hkeysAt]
      by_cases hbase : base.IsMap
      · obtain ⟨bs, hbs⟩ := hbase
        obtain ⟨es, hes⟩ := hmap
        have hdistinct := hapart.unfold
        rw [hes, KeepsKeysApart] at hdistinct
        obtain ⟨rs, _, rfl, hmerged, -⟩ := h.entries hbs hes
        refine ⟨⟨rs, rfl⟩, ?_⟩
        rw [mapKeys_of_isMap hbs, mapKeys_of_isMap hes, ← hmerged.keys_eq hdistinct.1]
        rfl
      · rw [h.replaced fun hboth => hbase hboth.1,
          mapKeys_of_not_isMap hbase, joinedKeys_nil]
        exact ⟨hmap, rfl⟩
  | cons k path ih =>
      have hnothing : base.at? (k :: path) = none → r.at? (k :: path) = some v →
          ∃ x : Value, r.at? (k :: path) = some x ∧ x.IsMap ∧
            x.mapKeys = joinedKeys (base.keysAt (k :: path)) v.mapKeys := by
        intro hbase hr
        refine ⟨v, hr, hmap, ?_⟩
        rw [keysAt, hbase]
        exact (joinedKeys_nil _).symm
      by_cases hbase : base.IsMap
      · have hoverride : override.IsNestedMap := ⟨isMap_of_at?_cons hv, hapart⟩
        rcases h.at?_below hbase hoverride k with
          ⟨hnone, -⟩ | ⟨w, hw, hat, ⟨hold, hr⟩ | ⟨old, x, hx, hold, hr⟩⟩
        · rw [hnone] at hv
          cases hv
        · exact hnothing (hold path) ((hr path).trans ((hat path).symm.trans hv))
        · rw [hat] at hv
          rw [hr, keysAt, hold, ← keysAt]
          exact ih hx hw hv
      · rw [h.replaced fun hboth => hbase hboth.1] at hnothing ⊢
        exact hnothing (at?_cons_of_not_isMap hbase k path) hv

/-- What the outcome of merging shows along paths. -/
theorem Merged.shows
    (h : Merged base override r)
    (hapart : override.KeepsKeysApart) :
    ShowsMerged base override r where
  replaced _ _ hv hno := h.at?_replaced hapart hv hno
  hidden path below v hv hno hne := by
    obtain ⟨k, below, rfl⟩ := List.exists_cons_of_ne_nil hne
    rw [at?_append, h.at?_replaced hapart hv hno, Option.bind_some,
      at?_cons_of_not_isMap hno]
  kept _ hnone hmaps := h.at?_kept hapart hnone hmaps
  joined _ _ hv hmap := h.at?_joined hapart hv hmap

end Steps

section Again

/-- Entries that are held as they are merged change nothing. -/
theorem mergeEntries_of_held
    {bs es : List (Value × Value)}
    (h : ∀ e ∈ es, ∃ x : Value, lookup? e.1 bs = some x ∧ overlay (some x) e.2 = x) :
    mergeEntries bs es = bs := by
  induction es with
  | nil =>
      rw [mergeEntries]
  | cons e rest ih =>
      obtain ⟨k, v⟩ := e
      obtain ⟨x, hx, hagain⟩ := h (k, v) List.mem_cons_self
      rw [mergeEntries, hx, hagain, assign_of_lookup? hx]
      exact ih fun e he => h e (List.mem_cons_of_mem _ he)

/-- What merged entries hold under a key of the upper ones. -/
theorem lookup?_mergeEntries_of_mem
    {es : List (Value × Value)} {e : Value × Value}
    (hes : DistinctEntries es)
    (he : e ∈ es) (bs : List (Value × Value)) :
    lookup? e.1 (mergeEntries bs es) = some (overlay (lookup? e.1 bs) e.2) := by
  rcases (entriesMerged_mergeEntries bs es).lookup?_put (hes.heldOnce e.1)
    (hes.lookup?_eq he) with
    ⟨hold, hr⟩ | ⟨old, x, hold, rfl, hr⟩
  · rw [hr, hold, overlay_none]
  · rw [hr, hold]

mutual

/-- Laying a value over a second time changes nothing. -/
theorem overlay_again :
    ∀ v : Value, v.KeepsKeysApart → ∀ old : Option Value,
      overlay (some (overlay old v)) v = overlay old v
  | .map es, h, old => by
      rw [KeepsKeysApart] at h
      have hself : overlay (some (.map es)) (.map es) = .map es := by
        rw [overlay]
        refine congrArg Value.map
          (mergeEntries_of_held fun e he => ⟨e.2, h.1.lookup?_eq he, ?_⟩)
        have hagain := overlay_again_of_mem es h.2 e he none
        rwa [overlay_none] at hagain
      by_cases hold : ∃ bs : List (Value × Value), old = some (.map bs)
      · obtain ⟨bs, rfl⟩ := hold
        have hmap : overlay (some (.map bs)) (.map es) = .map (mergeEntries bs es) := by
          rw [overlay]
        rw [hmap, overlay]
        refine congrArg Value.map (mergeEntries_of_held fun e he => ?_)
        exact ⟨_, lookup?_mergeEntries_of_mem h.1 he bs,
          overlay_again_of_mem es h.2 e he _⟩
      · have hmap : overlay old (.map es) = .map es := by
          rw [overlay]
          rintro bs rfl
          exact hold ⟨bs, rfl⟩
        rw [hmap, hself]
  | .list _, _, _ => rfl
  | .tuple _, _, _ => rfl
  | .set _, _, _ => rfl
  | .cycle _ _, _, _ => rfl
  | .back _, _, _ => rfl
  | .null, _, _ => rfl
  | .bool _, _, _ => rfl
  | .int _, _, _ => rfl
  | .real _, _, _ => rfl
  | .text _, _, _ => rfl
  | .bytes _, _, _ => rfl
  | .date _, _, _ => rfl
  | .time _, _, _ => rfl

theorem overlay_again_of_mem :
    ∀ es : List (Value × Value), KeepsKeysApartBelow es → ∀ e ∈ es, ∀ old : Option Value,
      overlay (some (overlay old e.2)) e.2 = overlay old e.2
  | (_, v) :: rest, h, e, he, old => by
      rcases List.mem_cons.mp he with rfl | he
      · exact overlay_again v h.1 old
      · exact overlay_again_of_mem rest h.2 e he old

end

/-- Entries under new keys come behind the others as they are. -/
theorem mergeEntries_of_fresh
    {bs es : List (Value × Value)}
    (hes : DistinctEntries es)
    (hfresh : ∀ e ∈ es, lookup? e.1 bs = none) :
    mergeEntries bs es = bs ++ es := by
  induction es generalizing bs with
  | nil =>
      rw [mergeEntries, List.append_nil]
  | cons e rest ih =>
      obtain ⟨k, v⟩ := e
      have hnone := hfresh (k, v) List.mem_cons_self
      rw [mergeEntries, hnone, overlay_none, assign_of_lookup?_eq_none hnone,
        ih hes.of_cons, List.append_assoc]
      · rfl
      · intro e he
        have hne : sameKey k e.1 = false := (List.pairwise_cons.mp hes.apart).1 e he
        rw [← assign_of_lookup?_eq_none hnone, lookup?_assign, hne,
          if_neg Bool.false_ne_true]
        exact hfresh e (List.mem_cons_of_mem _ he)

end Again

section Laws

variable {base override : Value}

theorem exists_entries_of_isMap
    {v : Value}
    (hmap : v.IsMap)
    (hv : v.hasCycle = false) :
    ∃ entries : List (Value × Value), v = .map entries := by
  obtain ⟨entries, hentries⟩ := hmap
  rw [unfold_of_hasCycle_eq_false hv] at hentries
  exact ⟨entries, hentries⟩

/-- Merging a map with an empty one on either side, or with itself, changes nothing. -/
theorem merge?_identities
    (h : base.IsNestedMap)
    (hv : base.hasCycle = false) :
    base.merge? (.map []) = some base ∧ (Value.map []).merge? base = some base ∧
      base.merge? base = some base := by
  obtain ⟨es, rfl⟩ := exists_entries_of_isMap h.isMap hv
  have hapart := h.apart
  rw [KeepsKeysApart] at hapart
  refine ⟨merge?_empty es, ?_, ?_⟩
  · rw [merge?_of_hasCycle_eq_false rfl hv, merge, overlay,
      mergeEntries_of_fresh hapart.1 fun e _ => rfl,
      List.nil_append]
  · have hagain := overlay_again _ h.apart none
    rw [overlay_none] at hagain
    rw [merge?_of_hasCycle_eq_false hv hv, merge, hagain]

/-- Merging the same map once more changes nothing. -/
theorem merge?_again
    (hbase : base.hasCycle = false)
    (hoverride : override.IsNestedMap)
    (hcycle : override.hasCycle = false) :
    ∃ r : Value, base.merge? override = some r ∧ r.merge? override = some r := by
  obtain ⟨r, hr, hrcycle⟩ := merge?_of_acyclic hbase hcycle
  refine ⟨r, hr, ?_⟩
  rw [merge?_of_hasCycle_eq_false hbase hcycle] at hr
  obtain rfl := Option.some.inj hr
  rw [merge?_of_hasCycle_eq_false hrcycle hcycle, merge, merge,
    overlay_again _ hoverride.apart]

/-- Let one nested map be laid over another.  Whatever comes of it shows along paths what
the upper map holds, and below and beside it what the lower one does; and if no map
contains itself, something comes of it.  Then the same map laid over once more changes
nothing, and neither does an empty map on either side, or the map itself. -/
theorem merged_along_paths
    (hbase : base.IsNestedMap)
    (hoverride : override.IsNestedMap) :
    (∀ r : Value, base.merge? override = some r → ShowsMerged base override r) ∧
    (base.hasCycle = false → override.hasCycle = false →
      ∃ r : Value, base.merge? override = some r ∧ r.merge? override = some r) ∧
    (base.hasCycle = false →
      base.merge? (.map []) = some base ∧ (Value.map []).merge? base = some base ∧
        base.merge? base = some base) :=
  ⟨fun _ hr => (merged_of_merge? hr).shows hoverride.apart,
    fun hb ho => merge?_again hb hoverride ho,
    fun hb => merge?_identities hbase hb⟩

/-- Sections laid over sections: a setting joins others, a number gives way to a map whose
key has another form, and a map gives way to a number. -/
theorem merged_along_paths_sections :
    let base : Value :=
      .map [(.text "a", .map [(.text "x", .int 1), (.text "y", .int 2)]),
        (.int 1, .text "one"),
      (.text "c", .map [(.text "z", .int 4)])]
    let override : Value := .map [(.bool true, .map [(.text "w", .int 5)]),
      (.text "a", .map [(.text "y", .map [(.text "v", .int 6)]), (.text "u", .int 7)]),
        (.text "c", .int 8)]
    (base.IsNestedMap ∧ override.IsNestedMap) ∧
      ∃ r : Value, base.merge? override = some r ∧ r.merge? override = some r ∧
        r.at? [.text "c"] = some (.int 8) ∧ r.at? [.text "c", .text "z"] = none ∧
        r.at? [.text "a", .text "x"] = some (.int 1) ∧
        r.keysAt [] = [.text "a", .int 1, .text "c"] ∧
          r.keysAt [.text "a"] = [.text "x", .text "y", .text "u"] := by
  intro base override
  have hbase : base.IsNestedMap := by
    refine ⟨⟨_, rfl⟩, ?_⟩
    simp only [base, KeepsKeysApart, KeepsKeysApartBelow, and_true]
    decide
  have hoverride : override.IsNestedMap := by
    refine ⟨⟨_, rfl⟩, ?_⟩
    simp only [override, KeepsKeysApart, KeepsKeysApartBelow, and_true]
    decide
  obtain ⟨hshows, hagain, -⟩ := merged_along_paths hbase hoverride
  obtain ⟨r, hr, hrr⟩ := hagain (by decide) (by decide)
  have hr' := hshows r hr
  refine ⟨⟨hbase, hoverride⟩, r, hr, hrr, ?_, ?_, ?_, ?_, ?_⟩
  · exact hr'.replaced [.text "c"] (.int 8) (by decide) (by rintro ⟨es, ⟨⟩⟩)
  · exact hr'.hidden [.text "c"] [.text "z"] (.int 8) (by decide)
      (by rintro ⟨es, ⟨⟩⟩) (by simp)
  · refine hr'.kept [.text "a", .text "x"] (by decide) ?_
    intro above v habove hv
    have hmem : above ∈ List.inits [Value.text "a", .text "x"] :=
      (List.mem_inits _ _).mpr habove
    simp only [List.inits, List.map_cons, List.map_nil, List.mem_cons,
      List.not_mem_nil, or_false] at hmem
    rcases hmem with rfl | rfl | rfl
    · exact Option.some.inj hv ▸ hoverride.isMap
    · cases hv
      exact ⟨_, rfl⟩
    · exact absurd hv (by rintro ⟨⟩)
  · obtain ⟨x, hx, -, hkeys⟩ := hr'.joined [] override rfl hoverride.isMap
    rw [keysAt, hx]
    exact hkeys.trans (by decide)
  · obtain ⟨x, hx, -, hkeys⟩ := hr'.joined [.text "a"] _ rfl ⟨_, rfl⟩
    rw [keysAt, hx]
    exact hkeys.trans (by decide)

end Laws

end Value
end HdlLint
