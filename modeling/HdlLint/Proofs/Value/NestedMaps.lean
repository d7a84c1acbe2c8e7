import HdlLint.Proofs.Value.MergedMaps
import HdlLint.Proofs.Value.SameKeys

/-!
# Nested maps

A nested map is looked into along a path of keys, map by map.  No map on the way holds a
key twice, also not in two forms; this stays so when a map that contains itself is looked
into.

* `at?`: what a value holds under a path of keys.
* `KeepsKeysApart.unfold`, `KeepsKeysApart.of_lookup?`: keys stay apart on the way along a
  path.
-/

namespace HdlLint
namespace Value

/-- All keys of some entries can be keys, and no two are the same. -/
structure DistinctEntries (entries : List (Value × Value)) : Prop where
  isKey : ∀ e ∈ entries, e.1.isKey = true
  apart : entries.Pairwise fun e e' => sameKey e.1 e'.1 = false

mutual

/-- No map in the value holds a key twice, as far as maps hold maps. -/
def KeepsKeysApart : Value → Prop
  | .map es => DistinctEntries es ∧ KeepsKeysApartBelow es
  | .cycle _ v => KeepsKeysApart v
  | _ => True

/-- No map that an entry holds has a key twice. -/
def KeepsKeysApartBelow : List (Value × Value) → Prop
  | [] => True
  | (_, v) :: r => KeepsKeysApart v ∧ KeepsKeysApartBelow r

end

/-- A map that can be followed along keys, however deep.  It may contain itself. -/
structure IsNestedMap (v : Value) : Prop where
  isMap : v.IsMap
  apart : v.KeepsKeysApart

/-- What a value holds under a path of keys.  Only maps hold something under a key. -/
def at? : Value → List Value → Option Value
  | v, [] => some v
  | v, k :: path =>
    match v.unfold with
    | .map entries =>
      match lookup? k entries with
      | some x => x.at? path
      | none => none
    | _ => none

/-- The keys of a map in order; no others have any. -/
def mapKeys (v : Value) : List Value :=
  match v.unfold with
  | .map entries => keys entries
  | _ => []

section Paths

variable {v x k : Value} {entries : List (Value × Value)} {path : List Value}

theorem at?_cons
    (hv : v.unfold = .map entries)
    (k : Value) (path : List Value) :
    v.at? (k :: path) = (lookup? k entries).bind fun x => x.at? path := by
  simp only [at?, hv]
  cases lookup? k entries <;> rfl

theorem at?_cons_of_not_isMap
    (hv : ¬ v.IsMap)
    (k : Value) (path : List Value) :
    v.at? (k :: path) = none := by
  unfold at?
  split
  · rename_i entries hentries
    exact absurd ⟨entries, hentries⟩ hv
  · rfl

theorem at?_append
    (v : Value) (path below : List Value) :
    v.at? (path ++ below) = (v.at? path).bind fun x => x.at? below := by
  induction path generalizing v with
  | nil =>
      rfl
  | cons k path ih =>
      by_cases hv : v.IsMap
      · obtain ⟨entries, hentries⟩ := hv
        rw [List.cons_append, at?_cons hentries, at?_cons hentries, Option.bind_assoc]
        exact congrArg _ (funext ih)
      · rw [List.cons_append, at?_cons_of_not_isMap hv, at?_cons_of_not_isMap hv]
        rfl

theorem isMap_of_at?_cons
    (h : v.at? (k :: path) = some x) :
    v.IsMap := by
  by_contra hv
  rw [at?_cons_of_not_isMap hv] at h
  cases h

theorem mapKeys_of_isMap
    (hv : v.unfold = .map entries) :
    v.mapKeys = keys entries := by
  rw [mapKeys, hv]

theorem mapKeys_of_not_isMap
    (hv : ¬ v.IsMap) :
    v.mapKeys = [] := by
  unfold mapKeys
  split
  · rename_i entries hentries
    exact absurd ⟨entries, hentries⟩ hv
  · rfl

end Paths

section Apart

variable {v x k : Value} {entries : List (Value × Value)}

theorem keepsKeysApartBelow_iff :
    KeepsKeysApartBelow entries ↔ ∀ e ∈ entries, e.2.KeepsKeysApart := by
  induction entries with
  | nil =>
      simp [KeepsKeysApartBelow]
  | cons e rest ih =>
      obtain ⟨k, v⟩ := e
      rw [KeepsKeysApartBelow, ih, List.forall_mem_cons]

theorem KeepsKeysApart.of_lookup?
    (h : (Value.map entries).KeepsKeysApart)
    (hx : lookup? k entries = some x) :
    x.KeepsKeysApart := by
  rw [KeepsKeysApart] at h
  obtain ⟨k', hmem, -⟩ := exists_of_lookup? hx
  exact keepsKeysApartBelow_iff.mp h.2 _ hmem

/-- An entry is found under its key. -/
theorem DistinctEntries.lookup?_eq
    {e : Value × Value}
    (h : DistinctEntries entries)
    (he : e ∈ entries) :
    lookup? e.1 entries = some e.2 := by
  obtain ⟨before, after, rfl⟩ := List.append_of_mem he
  have hapart := (List.pairwise_append.mp h.apart).2.2
  have hself := sameKey_self (h.isKey e he)
  induction before with
  | nil =>
      simp [lookup?, hself]
  | cons e' before ih =>
      have hne := hapart e' List.mem_cons_self e List.mem_cons_self
      rw [List.cons_append, lookup?, hne, if_neg Bool.false_ne_true]
      refine ih ⟨fun x hx => h.isKey x (List.mem_cons_of_mem e' hx),
        (List.pairwise_cons.mp h.apart).2⟩ (by simp) ?_
      exact fun x hx => hapart x (List.mem_cons_of_mem e' hx)

mutual

/-- What can be a key holds no label. -/
theorem replaceBack_of_isKey
    (label : Nat) (whole : Value) :
    ∀ k : Value, k.isKey = true → replaceBack label whole k = k
  | .tuple xs, h => by
      rw [isKey] at h
      rw [replaceBack, replaceBacks_of_areKeys label whole xs h]
  | .list _, h => nomatch h
  | .set _, h => nomatch h
  | .map _, h => nomatch h
  | .cycle _ _, h => nomatch h
  | .back _, h => nomatch h
  | .null, _ => rfl
  | .bool _, _ => rfl
  | .int _, _ => rfl
  | .real _, _ => rfl
  | .text _, _ => rfl
  | .bytes _, _ => rfl
  | .date _, _ => rfl
  | .time _, _ => rfl

theorem replaceBacks_of_areKeys
    (label : Nat) (whole : Value) :
    ∀ xs : List Value, areKeys xs = true → replaceBacks label whole xs = xs
  | [], _ => rfl
  | x :: xs, h => by
      rw [areKeys, Bool.and_eq_true] at h
      rw [replaceBacks, replaceBack_of_isKey label whole x h.1,
        replaceBacks_of_areKeys label whole xs h.2]

end

theorem keys_replaceBackEntries
    (label : Nat) (whole : Value)
    (h : ∀ e ∈ entries, e.1.isKey = true) :
    keys (replaceBackEntries label whole entries) = keys entries := by
  induction entries with
  | nil =>
      rfl
  | cons e rest ih =>
      obtain ⟨k, v⟩ := e
      have hk := replaceBack_of_isKey label whole k (h (k, v) List.mem_cons_self)
      have hrest := ih fun e he => h e (List.mem_cons_of_mem _ he)
      rw [replaceBackEntries, hk]
      exact congrArg (k :: ·) hrest

/-- Only the keys count for whether entries are distinct. -/
theorem distinctEntries_iff_keys :
    DistinctEntries entries ↔
      (∀ k ∈ keys entries, k.isKey = true) ∧
        (keys entries).Pairwise fun k k' => sameKey k k' = false := by
  rw [keys, List.forall_mem_map, List.pairwise_map]
  exact ⟨fun h => ⟨h.isKey, h.apart⟩, fun h => ⟨h.1, h.2⟩⟩

mutual

/-- Putting a value in place of a label keeps the keys apart. -/
theorem KeepsKeysApart.replaceBack
    {label : Nat} {whole : Value}
    (hwhole : whole.KeepsKeysApart) :
    ∀ v : Value, v.KeepsKeysApart → (Value.replaceBack label whole v).KeepsKeysApart
  | .map es, h => by
      rw [KeepsKeysApart] at h
      rw [Value.replaceBack, KeepsKeysApart, distinctEntries_iff_keys,
        keys_replaceBackEntries label whole h.1.isKey,
        ← distinctEntries_iff_keys]
      exact ⟨h.1, KeepsKeysApartBelow.replaceBackEntries hwhole es h.2⟩
  | .cycle l v, h => by
      rw [Value.replaceBack]
      split
      · exact h
      · rw [KeepsKeysApart] at h ⊢
        exact KeepsKeysApart.replaceBack hwhole v h
  | .back l, _ => by
      rw [Value.replaceBack]
      split
      · exact hwhole
      · trivial
  | .list _, _ => trivial
  | .tuple _, _ => trivial
  | .set _, _ => trivial
  | .null, _ => trivial
  | .bool _, _ => trivial
  | .int _, _ => trivial
  | .real _, _ => trivial
  | .text _, _ => trivial
  | .bytes _, _ => trivial
  | .date _, _ => trivial
  | .time _, _ => trivial

theorem KeepsKeysApartBelow.replaceBackEntries
    {label : Nat} {whole : Value}
    (hwhole : whole.KeepsKeysApart) :
    ∀ es : List (Value × Value), KeepsKeysApartBelow es →
      KeepsKeysApartBelow (Value.replaceBackEntries label whole es)
  | [], _ => trivial
  | (_, v) :: es, h =>
      ⟨KeepsKeysApart.replaceBack hwhole v h.1,
        KeepsKeysApartBelow.replaceBackEntries hwhole es h.2⟩

end

theorem KeepsKeysApart.unfold
    (h : v.KeepsKeysApart) :
    v.unfold.KeepsKeysApart := by
  cases v with
  | cycle l v =>
      rw [Value.unfold]
      rw [KeepsKeysApart] at h
      refine KeepsKeysApart.replaceBack ?_ v h
      rw [KeepsKeysApart]
      exact h
  | _ => exact h

end Apart

end Value
end HdlLint
