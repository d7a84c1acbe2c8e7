import HdlLint.Proofs.Fault.Stages
import HdlLint.Proofs.Value.DistinctKeys
import HdlLint.Settings.Load

/-!
# Keys of mappings in documents

A mapping is filled with its entries one after the other, and an entry with a key that is
there already takes its place.  So the map that is read off holds each textual key once.
The objects made so far are never taken back: what has been met stays, or is a collection
that gets filled.

* `Build.grows_fillAll`: all objects are made so.
* `distinctKeys_readDocument`: the value read off keeps the keys of its maps apart.
* `Settings.distinctKeys_loadFile`: so does the map that a file holds.
-/

namespace HdlLint
namespace Yaml

open Value (DistinctKeys textKeys)

/-- The object at a place is a text. -/
def HoldsText (items : Array (Option Item)) (p : Place) (s : String) : Prop :=
  ∃ unique : Bool, items.getD p none = some (.value (.text s) unique)

/-- The keys of the entries have objects, and no two are the same text. -/
structure KeysApart (items : Array (Option Item)) (entries : List (Place × Place)) :
    Prop where
  met : ∀ e ∈ entries, (items.getD e.1 none).isSome = true
  apart : entries.Pairwise fun e e' => ∀ s : String, HoldsText items e.1 s →
    ¬ HoldsText items e'.1 s

/-- The objects keep the keys of their maps apart. -/
structure SoundItems (items : Array (Option Item)) : Prop where
  values : ∀ (p : Place) (v : Value) (unique : Bool),
    items.getD p none = some (.value v unique) → v.DistinctKeys
  maps : ∀ (p : Place) (entries : List (Place × Place)),
    items.getD p none = some (.filled (.map entries)) → KeysApart items entries

/-- Objects are kept, or they are collections that have been filled. -/
def Grown (items items' : Array (Option Item)) : Prop :=
  ∀ p : Place, (items.getD p none).isSome = true →
    items'.getD p none = items.getD p none ∨ ∃ c : Content,
      items'.getD p none = some (.filled c)

section Growth

variable {items items' items'' : Array (Option Item)} {p : Place}

theorem Grown.refl
    (items : Array (Option Item)) :
    Grown items items :=
  fun _ _ => Or.inl rfl

theorem Grown.met
    (h : Grown items items')
    (hp : (items.getD p none).isSome = true) :
    (items'.getD p none).isSome = true := by
  rcases h p hp with heq | ⟨c, hc⟩
  · rw [heq]
    exact hp
  · rw [hc]
    rfl

theorem Grown.trans
    (h : Grown items items')
    (h' : Grown items' items'') :
    Grown items items'' := by
  intro p hp
  rcases h' p (h.met hp) with heq | hfilled
  · rw [heq]
    exact h p hp
  · exact Or.inr hfilled

/-- What has been met becomes no text. -/
theorem Grown.holdsText
    {s : String}
    (h : Grown items items')
    (hp : (items.getD p none).isSome = true)
    (hs : HoldsText items' p s) :
    HoldsText items p s := by
  obtain ⟨unique, hs⟩ := hs
  rcases h p hp with heq | ⟨c, hc⟩
  · exact ⟨unique, heq ▸ hs⟩
  · rw [hc] at hs
    cases hs

theorem KeysApart.grown
    {entries : List (Place × Place)}
    (h : Grown items items')
    (hentries : KeysApart items entries) :
    KeysApart items' entries where
  met e he := h.met (hentries.met e he)
  apart := by
    refine hentries.apart.imp_of_mem ?_
    intro e e' he he' hapart s hs hs'
    exact hapart s (h.holdsText (hentries.met e he) hs)
      (h.holdsText (hentries.met e' he') hs')

theorem getD_setIfInBounds
    (items : Array (Option Item)) (p q : Place) (o : Option Item) :
    (items.setIfInBounds p o).getD q none = if p = q ∧ q < items.size then o
      else items.getD q none := by
  by_cases hpq : p = q
  · subst hpq
    by_cases hp : p < items.size <;> simp [Array.getD, hp]
  · by_cases hq : q < items.size <;> simp [Array.getD, hq, hpq]

/-- A place is given an object if it has none, or if it is filled. -/
theorem Grown.set
    {o : Item}
    (h : (items.getD p none).isSome = true → ∃ c : Content, o = .filled c) :
    Grown items (items.setIfInBounds p (some o)) := by
  intro q hq
  rw [getD_setIfInBounds]
  split
  · rename_i hpq
    obtain ⟨rfl, -⟩ := hpq
    obtain ⟨c, rfl⟩ := h hq
    exact Or.inr ⟨c, rfl⟩
  · exact Or.inl rfl

theorem SoundItems.set
    {o : Item}
    (h : SoundItems items)
    (hgrown : Grown items (items.setIfInBounds p (some o)))
    (hvalue : ∀ (v : Value) (unique : Bool), o = .value v unique → v.DistinctKeys)
    (hmap : ∀ entries : List (Place × Place), o = .filled (.map entries) →
      KeysApart items entries) :
    SoundItems (items.setIfInBounds p (some o)) where
  values q v unique hq := by
    rw [getD_setIfInBounds] at hq
    split at hq
    · exact hvalue v unique (Option.some.inj hq)
    · exact h.values q v unique hq
  maps q entries hq := by
    rw [getD_setIfInBounds] at hq
    split at hq
    · exact (hmap entries (Option.some.inj hq)).grown hgrown
    · exact (h.maps q entries hq).grown hgrown

end Growth

section Entries

variable {items : Array (Option Item)}

theorem sameItem_of_holdsText
    {p q : Place} {s : String}
    (hp : HoldsText items p s)
    (hq : HoldsText items q s) :
    Build.sameItem items p q = true := by
  obtain ⟨u, hu⟩ := hp
  obtain ⟨w, hw⟩ := hq
  rw [Build.sameItem, hu, hw]
  exact Value.sameKey_text_right.mpr rfl

theorem mem_assign_keys
    {same : Place → Place → Bool} {k v : Place}
    {entries : List (Place × Place)} {e : Place × Place}
    (he : e ∈ Build.assign same k v entries) :
    e.1 = k ∨ ∃ x : Place, (e.1, x) ∈ entries := by
  induction entries with
  | nil =>
      obtain rfl := List.mem_singleton.mp he
      exact Or.inl rfl
  | cons e' rest ih =>
      obtain ⟨k', v'⟩ := e'
      rw [Build.assign] at he
      split at he
      · rcases List.mem_cons.mp he with rfl | he
        · exact Or.inr ⟨v', List.mem_cons_self⟩
        · exact Or.inr ⟨e.2, List.mem_cons_of_mem _ he⟩
      · rcases List.mem_cons.mp he with rfl | he
        · exact Or.inr ⟨v', List.mem_cons_self⟩
        · rcases ih he with hk | ⟨x, hx⟩
          · exact Or.inl hk
          · exact Or.inr ⟨x, List.mem_cons_of_mem _ hx⟩

/-- An assignment to a key that has been met keeps the keys apart. -/
theorem KeysApart.assign
    {entries : List (Place × Place)} {k : Place}
    (h : KeysApart items entries)
    (hk : (items.getD k none).isSome = true)
    (v : Place) :
    KeysApart items (Build.assign (Build.sameItem items) k v entries) where
  met e he := by
    rcases mem_assign_keys he with rfl | ⟨x, hx⟩
    · exact hk
    · exact h.met (e.1, x) hx
  apart := by
    have hentries := h.apart
    clear h
    induction entries with
    | nil =>
        exact List.pairwise_singleton _ _
    | cons e rest ih =>
        obtain ⟨k', v'⟩ := e
        rw [List.pairwise_cons] at hentries
        rw [Build.assign]
        split
        · exact List.pairwise_cons.mpr hentries
        · rename_i hother
          refine List.pairwise_cons.mpr ⟨?_, ih hentries.2⟩
          intro e he s hs hs'
          rcases mem_assign_keys he with hkey | ⟨x, hx⟩
          · exact hother (sameItem_of_holdsText hs (hkey ▸ hs'))
          · exact hentries.1 _ hx s hs hs'

theorem KeysApart.foldl
    {acc : List (Place × Place)}
    (hacc : KeysApart items acc)
    (entries : List (Place × Place))
    (hmet : ∀ e ∈ entries, (items.getD e.1 none).isSome = true) :
    KeysApart items
      (entries.foldl (fun acc e =>
        Build.assign (Build.sameItem items) e.1 e.2 acc) acc) := by
  induction entries generalizing acc with
  | nil =>
      exact hacc
  | cons e rest ih =>
      rw [List.forall_mem_cons] at hmet
      exact ih (hacc.assign hmet.1 e.2) hmet.2

end Entries

section Scalars

/-- A scalar is no map. -/
theorem distinctKeys_valueOfScalar
    {tag : Tag} {text : String} {v : Value}
    (h : valueOfScalar tag text = .ok v) :
    v.DistinctKeys := by
  cases tag with
  | null =>
      cases h
      trivial
  | bool =>
      rw [valueOfScalar, boolOfText] at h
      split at h
      · cases h
        trivial
      · cases h
  | int =>
      rw [valueOfScalar] at h
      obtain ⟨i, -, rfl⟩ := exceptMap_ok h
      trivial
  | float =>
      rw [valueOfScalar] at h
      obtain ⟨x, -, rfl⟩ := exceptMap_ok h
      trivial
  | binary =>
      rw [valueOfScalar] at h
      obtain ⟨bs, -, rfl⟩ := exceptMap_ok h
      trivial
  | timestamp =>
      rw [valueOfScalar, timeOfText] at h
      split at h
      · cases h
      · split at h
        · obtain ⟨d, _, hv⟩ := exceptBind_ok h
          cases hv
          trivial
        · obtain ⟨offset, _, h⟩ := exceptBind_ok h
          obtain ⟨d, _, h⟩ := exceptBind_ok h
          -- A clock out of range is refused.
          split at h <;> split at h <;> split at h <;> cases h
          trivial
  | str =>
      cases h
      trivial
  | _ => cases h

/-- The object of a node that is no collection is such a value. -/
theorem scalarItem_eq_value
    {g : Graph} {p : Place} {o : Item}
    (h : g.scalarItem p = .ok o) :
    ∃ (v : Value) (unique : Bool), o = .value v unique ∧ v.DistinctKeys := by
  rw [Graph.scalarItem] at h
  split at h
  · obtain ⟨text, _, h⟩ := exceptBind_ok h
    simp only at h
    split at h
    · cases h
    · obtain ⟨v, hv, h⟩ := exceptBind_ok h
      cases h
      exact ⟨v, _, rfl, distinctKeys_valueOfScalar hv⟩
  · cases h

end Scalars

namespace Build

variable {α β : Type} {b b' : Building}

/-- What a computation makes of sound objects: they grow and stay sound, and something
more holds of them. -/
def Grows (act : Build α) (post : α → Array (Option Item) → Prop) : Prop :=
  ∀ (b b' : Building) (a : α), act.run b = .ok (a, b') → SoundItems b.items →
    SoundItems b'.items ∧ Grown b.items b'.items ∧ post a b'.items

theorem bind_ok
    {x : Build α} {f : α → Build β} {r : β × Building}
    (h : (x >>= f).run b = .ok r) :
    ∃ (a : α) (b' : Building), x.run b = .ok (a, b') ∧ (f a).run b' = .ok r := by
  have hrun : (x >>= f).run b = (x.run b).bind fun p => (f p.1).run p.2 := rfl
  rw [hrun] at h
  obtain ⟨⟨a, b'⟩, hx, hf⟩ := exceptBind_ok h
  exact ⟨a, b', hx, hf⟩

theorem grows_meet
    (p : Place) :
    Grows (meet p) fun _ _ => True := by
  intro b b' u h hsound
  unfold meet at h
  obtain ⟨o, _, ho, h⟩ := bind_ok h
  cases ho
  split at h
  · cases h
    exact ⟨hsound, Grown.refl _, trivial⟩
  · rename_i hnone
    obtain ⟨n, _, hn, h⟩ := bind_ok h
    cases hn
    split at h
    · cases h
      have hgrown := Grown.set (o := .unfilled) fun hp => absurd hp hnone
      exact ⟨hsound.set hgrown (by simp) (by simp), hgrown, trivial⟩
    · obtain ⟨_, _, hget, h⟩ := bind_ok h
      cases hget
      obtain ⟨o, b₂, ho, h⟩ := bind_ok h
      cases hitem : b.graph.scalarItem p with
      | error e =>
          rw [hitem] at ho
          cases ho
      | ok o' =>
          rw [hitem] at ho
          cases ho
          cases h
          obtain ⟨v, unique, rfl, hv⟩ := scalarItem_eq_value hitem
          have hgrown := Grown.set (o := .value v unique) fun hp => absurd hp hnone
          refine ⟨hsound.set hgrown ?_ (by simp), hgrown, trivial⟩
          rintro w unique' heq
          cases heq
          exact hv

/-- After an entry has been met, its key has an object. -/
theorem grows_meetEntry
    (e : Place × Place) :
    Grows (meetEntry e) fun _ items => (items.getD e.1 none).isSome = true := by
  intro b b' u h hsound
  unfold meetEntry at h
  obtain ⟨_, b₁, hkey, h⟩ := bind_ok h
  obtain ⟨hsound₁, hgrown₁, -⟩ := grows_meet e.1 _ _ _ hkey hsound
  obtain ⟨o, _, ho, h⟩ := bind_ok h
  cases ho
  split at h
  · rename_i v unique hv
    obtain ⟨hsound₂, hgrown₂, -⟩ := grows_meet e.2 _ _ _ h hsound₁
    exact ⟨hsound₂, hgrown₁.trans hgrown₂, hgrown₂.met (by rw [hv]; rfl)⟩
  · cases h

/-- What holds after each step, and is kept by the steps after it, holds in the end. -/
theorem grows_forM
    {γ : Type} {f : γ → Build Unit} {met : γ → Array (Option Item) → Prop}
    (hf : ∀ x : γ, Grows (f x) fun _ => met x)
    (hkept : ∀ (x : γ) (items items' : Array (Option Item)), Grown items items' →
      met x items → met x items')
    (xs : List γ) :
    Grows (xs.forM f) fun _ items => ∀ x ∈ xs, met x items := by
  induction xs with
  | nil =>
      intro b b' u h hsound
      cases h
      exact ⟨hsound, Grown.refl _, fun _ hx => absurd hx List.not_mem_nil⟩
  | cons x xs ih =>
      intro b b' u h hsound
      obtain ⟨_, b₁, hx, h⟩ := bind_ok h
      obtain ⟨hsound₁, hgrown₁, hmet⟩ := hf x _ _ _ hx hsound
      obtain ⟨hsound₂, hgrown₂, hrest⟩ := ih _ _ _ h hsound₁
      refine ⟨hsound₂, hgrown₁.trans hgrown₂, ?_⟩
      intro y hy
      rcases List.mem_cons.mp hy with rfl | hy
      · exact hkept y _ _ hgrown₂ hmet
      · exact hrest y hy

theorem grows_pairOf
    (p : Place) :
    Grows (pairOf p) fun _ _ => True := by
  intro b b' e h hsound
  unfold pairOf at h
  obtain ⟨n, _, hn, h⟩ := bind_ok h
  cases hn
  split at h
  · rename_i k v _
    obtain ⟨_, b₁, hk, h⟩ := bind_ok h
    obtain ⟨hsound₁, hgrown₁, -⟩ := grows_meet k _ _ _ hk hsound
    obtain ⟨_, b₂, hv, h⟩ := bind_ok h
    obtain ⟨hsound₂, hgrown₂, -⟩ := grows_meet v _ _ _ hv hsound₁
    cases h
    exact ⟨hsound₂, hgrown₁.trans hgrown₂, trivial⟩
  · cases h

theorem grows_mapM
    {γ : Type} {f : γ → Build β}
    (hf : ∀ x : γ, Grows (f x) fun _ _ => True)
    (xs : List γ) :
    Grows (xs.mapM f) fun _ _ => True := by
  induction xs with
  | nil =>
      intro b b' u h hsound
      cases h
      exact ⟨hsound, Grown.refl _, trivial⟩
  | cons x xs ih =>
      intro b b' ys h hsound
      rw [List.mapM_cons] at h
      obtain ⟨y, b₁, hy, h⟩ := bind_ok h
      obtain ⟨hsound₁, hgrown₁, -⟩ := hf x _ _ _ hy hsound
      obtain ⟨zs, b₂, hzs, h⟩ := bind_ok h
      obtain ⟨hsound₂, hgrown₂, -⟩ := ih _ _ _ hzs hsound₁
      cases h
      exact ⟨hsound₂, hgrown₁.trans hgrown₂, trivial⟩

/-- The entries of a mapping have keys that are apart. -/
theorem grows_entriesOf
    (p : Place) :
    Grows (entriesOf p) fun entries items => KeysApart items entries := by
  intro b b' entries h hsound
  unfold entriesOf at h
  obtain ⟨_, _, hget, h⟩ := bind_ok h
  cases hget
  obtain ⟨g, b₁, hg, h⟩ := bind_ok h
  have hitems : b₁.items = b.items := by
    cases hmerged : b.graph.merged p with
    | error e =>
        rw [hmerged] at hg
        cases hg
    | ok g' =>
        rw [hmerged] at hg
        cases hg
        rfl
  obtain ⟨_, b₂, hmodify, h⟩ := bind_ok h
  cases hmodify
  obtain ⟨_, b₃, hmeet, h⟩ := bind_ok h
  obtain ⟨hsound₃, hgrown₃, hmet⟩ :=
    grows_forM grows_meetEntry (fun _ _ _ hgrown hmet => hgrown.met hmet) _ _ _ _ hmeet
      (hitems ▸ hsound)
  obtain ⟨_, _, hget, h⟩ := bind_ok h
  cases hget
  cases h
  refine ⟨hsound₃, hitems ▸ hgrown₃, ?_⟩
  exact KeysApart.foldl ⟨fun _ he => absurd he List.not_mem_nil, List.Pairwise.nil⟩ _ hmet

/-- A collection is filled with what has been found for it. -/
theorem grows_settle
    {x : Build α} {post : α → Array (Option Item) → Prop}
    (hx : Grows x post)
    (content : α → Content)
    (hpost : ∀ (a : α) (items : Array (Option Item)) (entries : List (Place × Place)),
      post a items → content a = .map entries → KeysApart items entries)
    (p : Place) :
    Grows (do settle p (.filled (content (← x)))) fun _ _ => True := by
  intro b b' u h hsound
  obtain ⟨a, b₁, hrun, h⟩ := bind_ok h
  obtain ⟨hsound₁, hgrown₁, ha⟩ := hx _ _ _ hrun hsound
  cases h
  have hgrown : Grown b₁.items (b₁.items.setIfInBounds p (some (.filled (content a)))) :=
    Grown.set fun _ => ⟨_, rfl⟩
  refine ⟨hsound₁.set hgrown (by simp) ?_, hgrown₁.trans hgrown, trivial⟩
  intro entries heq
  exact hpost a _ entries ha (Item.filled.inj heq)

theorem grows_fill
    (p : Place) :
    Grows (fill p) fun _ _ => True := by
  intro b b' u h hsound
  unfold fill at h
  obtain ⟨n, _, hn, h⟩ := bind_ok h
  cases hn
  split at h
  · rename_i items _
    have hmeet := grows_forM (fun q => grows_meet q) (fun _ _ _ _ _ => trivial) items
    exact grows_settle hmeet (fun _ => .list items) (by simp) p _ _ _ h hsound
  · exact grows_settle (grows_mapM grows_pairOf _) .pairs (by simp) p _ _ _ h hsound
  · exact grows_settle (grows_mapM grows_pairOf _) .pairs (by simp) p _ _ _ h hsound
  · refine grows_settle (grows_entriesOf p) .map ?_ p _ _ _ h hsound
    intro entries items entries' hapart heq
    cases heq
    exact hapart
  · exact grows_settle (grows_entriesOf p) (fun entries => .set (entries.map (·.1)))
      (by simp) p _ _ _ h hsound
  · cases h

/-- Filling keeps the keys of all maps apart. -/
theorem grows_fillAll
    (times : Nat) :
    Grows (fillAll times) fun _ _ => True := by
  induction times with
  | zero =>
      intro b b' u h hsound
      cases h
      exact ⟨hsound, Grown.refl _, trivial⟩
  | succ times ih =>
      intro b b' u h hsound
      unfold fillAll at h
      obtain ⟨_, _, hget, h⟩ := bind_ok h
      cases hget
      split at h
      · cases h
        exact ⟨hsound, Grown.refl _, trivial⟩
      · obtain ⟨_, b₁, hmodify, h⟩ := bind_ok h
        cases hmodify
        obtain ⟨_, b₂, hfill, h⟩ := bind_ok h
        obtain ⟨hsound₂, hgrown₂, -⟩ :=
          grows_forM grows_fill (fun _ _ _ _ _ => trivial) _ _ _ _ hfill hsound
        obtain ⟨hsound₃, hgrown₃, -⟩ := ih _ _ _ h hsound₂
        exact ⟨hsound₃, hgrown₂.trans hgrown₃, trivial⟩

end Build

section ReadingOff

variable {items : Array (Option Item)} {v : Value}

theorem distinctKeys_labelled
    (h : v.DistinctKeys)
    (label : Nat) :
    (labelled label v).DistinctKeys := by
  rw [labelled]
  split
  · exact h
  · rw [DistinctKeys]
    exact h

theorem text?_labelled
    (h : v.text? = none)
    (label : Nat) :
    (labelled label v).text? = none := by
  rw [labelled]
  split
  · exact h
  · rfl

/-- Only the object of a text is read off as a text. -/
theorem holdsText_of_valueAt
    {depth : Nat} {path : List Place} {p : Place} {s : String}
    (h : (valueAt items depth path p).text? = some s) :
    HoldsText items p s := by
  cases depth with
  | zero =>
      rw [valueAt] at h
      cases h
  | succ depth =>
      rw [valueAt] at h
      split at h
      · rename_i v unique hv
        obtain rfl := Value.text?_eq_some_iff.mp h
        exact ⟨unique, hv⟩
      · rename_i c _
        split at h
        · cases h
        · rw [text?_labelled] at h
          · cases h
          · cases c <;> rfl
      · cases h

theorem distinctKeys_valueAt
    (h : SoundItems items)
    (depth : Nat)
    (path : List Place)
    (p : Place) :
    (valueAt items depth path p).DistinctKeys := by
  induction depth generalizing path p with
  | zero =>
      rw [valueAt]
      trivial
  | succ depth ih =>
      rw [valueAt]
      split
      · rename_i v unique hv
        exact h.values p v unique hv
      · rename_i c hc
        split
        · trivial
        · refine distinctKeys_labelled ?_ _
          cases c with
          | list places =>
              simp only [DistinctKeys, Value.distinctKeysIn_iff, List.forall_mem_map]
              exact fun q _ => ih _ q
          | pairs entries =>
              simp only [DistinctKeys, Value.distinctKeysIn_iff, List.forall_mem_map]
              rintro ⟨e, i⟩ -
              refine distinctKeys_labelled ?_ _
              simp only [DistinctKeys, Value.DistinctKeysIn]
              exact ⟨ih _ e.1, ih _ e.2, trivial⟩
          | set keys =>
              simp only [DistinctKeys, Value.distinctKeysIn_iff, List.forall_mem_map]
              exact fun q _ => ih _ q
          | map entries =>
              simp only [DistinctKeys,
                Value.distinctKeysInEntries_iff, List.forall_mem_map]
              refine ⟨?_, fun e _ => ih _ e.2⟩
              rw [textKeys, List.filterMap_map, List.Nodup, List.pairwise_filterMap]
              refine (h.maps p entries hc).apart.imp ?_
              intro e e' hapart s hs s' hs' heq
              obtain rfl := heq
              exact hapart s (holdsText_of_valueAt hs) (holdsText_of_valueAt hs')
      · trivial

theorem soundItems_fresh
    (size : Nat) :
    SoundItems (Array.replicate size none) := by
  have hnone : ∀ p : Place,
      (Array.replicate size (none : Option Item)).getD p none = none := by
    intro p
    by_cases hp : p < size <;> simp [Array.getD, hp]
  constructor
  · intro p v unique hv
    rw [hnone] at hv
    cases hv
  · intro p entries hp
    rw [hnone] at hp
    cases hp

/-- The value of a document keeps the keys of its maps apart. -/
theorem distinctKeys_readDocument
    {room : Nat} {text : String}
    (h : readDocument room text = .ok v) :
    v.DistinctKeys := by
  rw [readDocument] at h
  obtain ⟨found, _, h⟩ := exceptBind_ok h
  split at h
  · cases h
    trivial
  · rename_i graph place _
    obtain ⟨⟨u, built⟩, hbuilt, h⟩ := exceptBind_ok h
    cases h
    obtain ⟨_, b₁, hmeet, hfill⟩ := Build.bind_ok hbuilt
    obtain ⟨hsound₁, -, -⟩ := Build.grows_meet place _ _ _ hmeet (soundItems_fresh _)
    obtain ⟨hsound₂, -, -⟩ := Build.grows_fillAll _ _ _ _ hfill hsound₁
    exact distinctKeys_valueAt hsound₂ _ _ _

end ReadingOff

end Yaml

namespace Settings

/-- The map that a file holds keeps its keys apart, and so do all maps in it. -/
theorem distinctKeys_loadFile
    {s : Surroundings} {path : String} {v : Value}
    (h : loadFile s path = .ok v) :
    v.DistinctKeys := by
  have hempty : (Value.map []).DistinctKeys := ⟨List.nodup_nil, trivial⟩
  rw [loadFile] at h
  split at h
  · split at h
    · cases h
    · rw [mapOfDocument] at h
      split at h
      · cases h
      · cases h
      · rename_i w hw
        have hdistinct := (Yaml.distinctKeys_readDocument hw).unfold
        split at h
        · rename_i es hes
          cases h
          rw [hes] at hdistinct
          exact hdistinct
        · split at h
          · cases h
          · cases h
            exact hempty
  · cases h
  · cases h
    exact hempty

end Settings
end HdlLint
