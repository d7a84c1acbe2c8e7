import HdlLint.Proofs.Value.TextKeys

/-!
# Values whose maps keep their keys apart

A map holds a textual key once.  `DistinctKeys` says so of all maps in a value, also of
those that contain themselves.

* `DistinctKeys.unfold`: it stays so when a value that contains itself is looked into.
* `DistinctKeys.lookup?`: and for what a map holds.
-/

namespace HdlLint
namespace Value

mutual

/-- No map in the value holds a textual key twice. -/
def DistinctKeys : Value → Prop
  | .list xs => DistinctKeysIn xs
  | .tuple xs => DistinctKeysIn xs
  | .set xs => DistinctKeysIn xs
  | .map es => (textKeys es).Nodup ∧ DistinctKeysInEntries es
  | .cycle _ v => DistinctKeys v
  | _ => True

/-- No map in a member of a collection holds a textual key twice. -/
def DistinctKeysIn : List Value → Prop
  | [] => True
  | x :: xs => DistinctKeys x ∧ DistinctKeysIn xs

/-- No map that an entry holds has a textual key twice. -/
def DistinctKeysInEntries : List (Value × Value) → Prop
  | [] => True
  | (_, v) :: r => DistinctKeys v ∧ DistinctKeysInEntries r

end

section Members

variable {entries : List (Value × Value)}

theorem distinctKeysIn_iff
    {xs : List Value} :
    DistinctKeysIn xs ↔ ∀ x ∈ xs, x.DistinctKeys := by
  induction xs with
  | nil =>
      simp [DistinctKeysIn]
  | cons x xs ih =>
      rw [DistinctKeysIn, ih, List.forall_mem_cons]

theorem distinctKeysInEntries_iff :
    DistinctKeysInEntries entries ↔ ∀ e ∈ entries, e.2.DistinctKeys := by
  induction entries with
  | nil =>
      simp [DistinctKeysInEntries]
  | cons e rest ih =>
      obtain ⟨k, v⟩ := e
      rw [DistinctKeysInEntries, ih, List.forall_mem_cons]

theorem DistinctKeys.lookup?
    {s : String} {v : Value}
    (h : (Value.map entries).DistinctKeys)
    (hv : Value.lookup? (.text s) entries = some v) :
    v.DistinctKeys := by
  rw [DistinctKeys] at h
  exact distinctKeysInEntries_iff.mp h.2 _ (mem_of_lookup?_text hv)

end Members

section Replacing

variable {label : Nat} {whole : Value}

theorem text?_replaceBack
    (hwhole : whole.text? = none)
    (v : Value) :
    (replaceBack label whole v).text? = v.text? := by
  cases v with
  | cycle l v =>
      rw [replaceBack]
      split <;> rfl
  | back l =>
      rw [replaceBack]
      split
      · exact hwhole
      · rfl
  | _ => rfl

theorem textKeys_replaceBackEntries
    (hwhole : whole.text? = none)
    (es : List (Value × Value)) :
    textKeys (replaceBackEntries label whole es) = textKeys es := by
  induction es with
  | nil =>
      rfl
  | cons e rest ih =>
      obtain ⟨k, v⟩ := e
      simp only [textKeys] at ih ⊢
      simp only [replaceBackEntries, List.filterMap_cons, ih, text?_replaceBack hwhole]

mutual

/-- Putting a value in place of a label keeps the keys apart. -/
theorem DistinctKeys.replaceBack
    (hwhole : whole.DistinctKeys)
    (hkey : whole.text? = none) :
    ∀ v : Value, v.DistinctKeys → (Value.replaceBack label whole v).DistinctKeys
  | .list xs, h => by
      rw [DistinctKeys] at h
      rw [Value.replaceBack, DistinctKeys]
      exact DistinctKeysIn.replaceBacks hwhole hkey xs h
  | .tuple xs, h => by
      rw [DistinctKeys] at h
      rw [Value.replaceBack, DistinctKeys]
      exact DistinctKeysIn.replaceBacks hwhole hkey xs h
  | .set xs, h => by
      rw [DistinctKeys] at h
      rw [Value.replaceBack, DistinctKeys]
      exact DistinctKeysIn.replaceBacks hwhole hkey xs h
  | .map es, h => by
      rw [DistinctKeys] at h
      rw [Value.replaceBack, DistinctKeys, textKeys_replaceBackEntries hkey]
      exact ⟨h.1, DistinctKeysInEntries.replaceBackEntries hwhole hkey es h.2⟩
  | .cycle l v, h => by
      rw [Value.replaceBack]
      split
      · exact h
      · rw [DistinctKeys] at h ⊢
        exact DistinctKeys.replaceBack hwhole hkey v h
  | .back l, _ => by
      rw [Value.replaceBack]
      split
      · exact hwhole
      · trivial
  | .null, _ => trivial
  | .bool _, _ => trivial
  | .int _, _ => trivial
  | .real _, _ => trivial
  | .text _, _ => trivial
  | .bytes _, _ => trivial
  | .date _, _ => trivial
  | .time _, _ => trivial

theorem DistinctKeysIn.replaceBacks
    (hwhole : whole.DistinctKeys)
    (hkey : whole.text? = none) :
    ∀ xs : List Value, DistinctKeysIn xs →
      DistinctKeysIn (Value.replaceBacks label whole xs)
  | [], _ => trivial
  | x :: xs, h =>
      ⟨DistinctKeys.replaceBack hwhole hkey x h.1,
        DistinctKeysIn.replaceBacks hwhole hkey xs h.2⟩

theorem DistinctKeysInEntries.replaceBackEntries
    (hwhole : whole.DistinctKeys)
    (hkey : whole.text? = none) :
    ∀ es : List (Value × Value), DistinctKeysInEntries es →
      DistinctKeysInEntries (Value.replaceBackEntries label whole es)
  | [], _ => trivial
  | (_, v) :: es, h =>
      ⟨DistinctKeys.replaceBack hwhole hkey v h.1,
        DistinctKeysInEntries.replaceBackEntries hwhole hkey es h.2⟩

end

theorem DistinctKeys.unfold
    {v : Value}
    (h : v.DistinctKeys) :
    v.unfold.DistinctKeys := by
  cases v with
  | cycle l v =>
      rw [Value.unfold]
      rw [DistinctKeys] at h
      refine DistinctKeys.replaceBack ?_ rfl v h
      rw [DistinctKeys]
      exact h
  | _ => exact h

end Replacing

end Value
end HdlLint
