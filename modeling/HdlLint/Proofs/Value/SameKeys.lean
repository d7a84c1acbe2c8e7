import HdlLint.Value.Basic
import Mathlib.Tactic

/-!
# Keys that are the same

A map finds a value under any form of its key: a number may be given as one of another
kind, and a moment in another zone.  What a key is worth is common to its forms, so being
the same key is an equivalence, and it does not matter in which form a key is looked up or
assigned to.

* `sameKey_iff`: keys are the same exactly if they are worth the same.
* `lookup?_assign`: what a map holds after an assignment.
* `assign_of_lookup?_eq_none`, `keys_assign_of_lookup?`: a new key comes last, and one
  that is there keeps its place and form.
-/

namespace HdlLint
namespace Value

/-- What a key is worth, whatever its form. -/
inductive Worth where
  | null
  | text (s : String)
  | bytes (bs : List UInt8)
  | date (d : Date)
  | moment (zoned : Bool) (instant : Int)
  | number (n : Number)
  | tuple (members : List Worth)

mutual

/-- What a value is worth as a key, if it can be one. -/
def worth? : Value → Option Worth
  | .null => some .null
  | .text s => some (.text s)
  | .bytes bs => some (.bytes bs)
  | .date d => some (.date d)
  | .time t => some (.moment t.offset.isSome t.instant)
  | .tuple xs => (worths? xs).map .tuple
  | v => v.number?.map .number

/-- What the members of a tuple are worth. -/
def worths? : List Value → Option (List Worth)
  | [] => some []
  | x :: xs =>
    match worth? x, worths? xs with
    | some w, some ws => some (w :: ws)
    | _, _ => none

end

/-- The keys of some entries, in order. -/
def keys (entries : List (Value × Value)) : List Value :=
  entries.map Prod.fst

section Worths

variable {a b c : Value}

theorem Number.same_iff
    {m n : Number} :
    m.same n = true ↔ m = n := by
  cases m <;> cases n <;> simp [Number.same]

mutual

/-- Keys are the same exactly if they are worth the same. -/
theorem sameKey_iff
    (a b : Value) :
    sameKey a b = true ↔ (worth? a).isSome = true ∧ worth? a = worth? b := by
  cases a with
  | tuple xs =>
      cases b with
      | tuple ys =>
          have hmap : (worths? xs).map Worth.tuple = (worths? ys).map Worth.tuple ↔
              worths? xs = worths? ys :=
            Option.map_inj_right fun _ _ => Worth.tuple.inj
          rw [sameKey, sameKeys_iff xs ys, worth?, worth?, Option.isSome_map, hmap]
      | _ => cases hxs : worths? xs <;> simp [sameKey, worth?, number?, hxs]
  | _ => cases b <;> simp [sameKey, worth?, number?, Number.same_iff]

theorem sameKeys_iff
    (xs ys : List Value) :
    sameKeys xs ys = true ↔ (worths? xs).isSome = true ∧ worths? xs = worths? ys := by
  cases xs with
  | nil =>
      cases ys with
      | nil =>
          simp [sameKeys, worths?]
      | cons y ys =>
          simp only [sameKeys, worths?]
          cases worth? y <;> cases worths? ys <;> simp
  | cons x xs =>
      cases ys with
      | nil =>
          simp only [sameKeys, worths?]
          cases worth? x <;> cases worths? xs <;> simp
      | cons y ys =>
          simp only [sameKeys, worths?, Bool.and_eq_true,
            sameKey_iff x y, sameKeys_iff xs ys]
          cases worth? x <;> cases worth? y <;> cases worths? xs <;>
            cases worths? ys <;> simp

end

theorem sameKey_symm
    (h : sameKey a b = true) :
    sameKey b a = true := by
  obtain ⟨hsome, heq⟩ := (sameKey_iff a b).mp h
  exact (sameKey_iff b a).mpr ⟨heq ▸ hsome, heq.symm⟩

theorem sameKey_trans
    (hab : sameKey a b = true)
    (hbc : sameKey b c = true) :
    sameKey a c = true := by
  obtain ⟨hsome, hab⟩ := (sameKey_iff a b).mp hab
  obtain ⟨-, hbc⟩ := (sameKey_iff b c).mp hbc
  exact (sameKey_iff a c).mpr ⟨hsome, hab.trans hbc⟩

/-- Keys that are the same are the same as the same keys. -/
theorem sameKey_congr_right
    (h : sameKey b c = true) (a : Value) :
    sameKey a b = sameKey a c :=
  Bool.eq_iff_iff.mpr ⟨fun hab => sameKey_trans hab h,
    fun hac => sameKey_trans hac (sameKey_symm h)⟩

mutual

theorem isSome_worth?
    (v : Value) :
    (worth? v).isSome = v.isKey := by
  cases v with
  | tuple xs =>
      rw [worth?, Option.isSome_map, isSome_worths?, isKey]
  | _ => simp [worth?, isKey, number?]

theorem isSome_worths?
    (xs : List Value) :
    (worths? xs).isSome = areKeys xs := by
  cases xs with
  | nil =>
      rfl
  | cons x xs =>
      rw [areKeys, ← isSome_worth? x, ← isSome_worths? xs, worths?]
      cases worth? x <;> cases worths? xs <;> rfl

end

/-- A key is the same as itself. -/
theorem sameKey_self
    (h : a.isKey = true) :
    sameKey a a = true :=
  (sameKey_iff a a).mpr ⟨(isSome_worth? a).trans h, rfl⟩

end Worths

section Entries

variable {k v : Value} {entries : List (Value × Value)}

theorem lookup?_congr
    {k' : Value}
    (h : sameKey k k' = true) (entries : List (Value × Value)) :
    lookup? k entries = lookup? k' entries := by
  induction entries with
  | nil =>
      rfl
  | cons e rest ih =>
      rw [lookup?, lookup?, sameKey_congr_right h, ih]

theorem lookup?_eq_none_iff :
    lookup? k entries = none ↔ ∀ e ∈ entries, sameKey e.1 k = false := by
  induction entries with
  | nil =>
      simp [lookup?]
  | cons e rest ih =>
      rw [lookup?, List.forall_mem_cons, ← ih]
      cases sameKey e.1 k <;> simp

theorem exists_of_lookup?
    (h : lookup? k entries = some v) :
    ∃ k' : Value, (k', v) ∈ entries ∧ sameKey k' k = true := by
  induction entries with
  | nil =>
      cases h
  | cons e rest ih =>
      obtain ⟨k', v'⟩ := e
      rw [lookup?] at h
      split at h
      · rename_i hkey
        obtain rfl := Option.some.inj h
        exact ⟨k', List.mem_cons_self, hkey⟩
      · obtain ⟨k'', hmem, hkey⟩ := ih h
        exact ⟨k'', List.mem_cons_of_mem _ hmem, hkey⟩

/-- An assignment changes what is held under its own key, in whatever form, and nothing
else. -/
theorem lookup?_assign
    (k v k' : Value) (entries : List (Value × Value)) :
    lookup? k' (assign k v entries) = if sameKey k k' then some v
      else lookup? k' entries := by
  induction entries with
  | nil =>
      rfl
  | cons e rest ih =>
      obtain ⟨l, w⟩ := e
      rw [assign]
      by_cases hsame : sameKey l k = true
      · rw [if_pos hsame, lookup?, lookup?]
        by_cases hkey : sameKey k k' = true
        · rw [if_pos (sameKey_trans hsame hkey), if_pos hkey]
        · have hother : ¬ sameKey l k' = true :=
            fun h => hkey (sameKey_trans (sameKey_symm hsame) h)
          rw [if_neg hother, if_neg hkey, if_neg hother]
      · rw [if_neg hsame, lookup?, lookup?, ih]
        by_cases hkey : sameKey k k' = true
        · have hother : ¬ sameKey l k' = true :=
            fun h => hsame (sameKey_trans h (sameKey_symm hkey))
          rw [if_neg hother, if_pos hkey, if_pos hkey]
        · rw [if_neg hkey, if_neg hkey]

/-- A new key comes last. -/
theorem assign_of_lookup?_eq_none
    (h : lookup? k entries = none) (v : Value) :
    assign k v entries = entries ++ [(k, v)] := by
  induction entries with
  | nil =>
      rfl
  | cons e rest ih =>
      have hkeys := lookup?_eq_none_iff.mp h
      rw [assign, if_neg (by simp [hkeys e List.mem_cons_self]), List.cons_append,
        ih (lookup?_eq_none_iff.mpr fun e' he' => hkeys e' (List.mem_cons_of_mem e he'))]

/-- A key that is there keeps its place and its form. -/
theorem keys_assign_of_lookup?
    {old : Value}
    (h : lookup? k entries = some old) (v : Value) :
    keys (assign k v entries) = keys entries := by
  induction entries with
  | nil =>
      cases h
  | cons e rest ih =>
      rw [lookup?] at h
      rw [assign]
      split at h
      · rename_i hkey
        rw [if_pos hkey]
        rfl
      · rename_i hkey
        rw [if_neg hkey]
        exact congrArg (e.1 :: ·) (ih h)

/-- Assigning what is there already changes nothing. -/
theorem assign_of_lookup?
    (h : lookup? k entries = some v) :
    assign k v entries = entries := by
  induction entries with
  | nil =>
      cases h
  | cons e rest ih =>
      rw [lookup?] at h
      rw [assign]
      split at h
      · rename_i hkey
        obtain rfl := Option.some.inj h
        rw [if_pos hkey]
      · rename_i hkey
        rw [if_neg hkey, ih h]

end Entries

end Value
end HdlLint
