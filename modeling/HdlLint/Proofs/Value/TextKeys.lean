import HdlLint.Proofs.Value.SameKeys

/-!
# Textual keys of maps

The keys of a map may be values of many kinds, but settings are named by texts.  A textual
key is the same key as no value but itself, so what a map holds under it is changed only
by an entry with just this key.

* `lookup?_text_eq_none_iff`: a map holds nothing under a text that is no textual key of
  it.
* `nodup_textKeys_assign`: assignments keep textual keys apart.
-/

namespace HdlLint
namespace Value

/-- The text of a value that is one. -/
def text? : Value → Option String
  | text s => some s
  | _ => none

/-- The textual keys of some entries, in order. -/
def textKeys (entries : List (Value × Value)) : List String :=
  entries.filterMap fun e => e.1.text?

section Keys

variable {k v : Value} {s : String} {entries : List (Value × Value)}

theorem text?_eq_some_iff :
    k.text? = some s ↔ k = .text s := by
  cases k <;> simp [text?]

theorem sameKey_text_right :
    sameKey k (.text s) = true ↔ k = .text s := by
  cases k <;> simp [sameKey, number?]

theorem sameKey_text_left :
    sameKey (.text s) k = true ↔ k = .text s := by
  cases k <;> simp [sameKey, number?, eq_comm]

theorem mem_textKeys_iff :
    s ∈ textKeys entries ↔ ∃ x : Value, (.text s, x) ∈ entries := by
  simp only [textKeys, List.mem_filterMap, text?_eq_some_iff, Prod.exists]
  exact ⟨fun ⟨_, x, hmem, hk⟩ => ⟨x, hk ▸ hmem⟩, fun ⟨x, hmem⟩ => ⟨_, x, hmem, rfl⟩⟩

theorem mem_of_lookup?_text
    (h : lookup? (.text s) entries = some v) :
    (.text s, v) ∈ entries := by
  obtain ⟨k, hmem, hkey⟩ := exists_of_lookup? h
  obtain rfl := sameKey_text_right.mp hkey
  exact hmem

theorem lookup?_text_eq_none_iff :
    lookup? (.text s) entries = none ↔ s ∉ textKeys entries := by
  rw [lookup?_eq_none_iff, mem_textKeys_iff]
  constructor
  · rintro hnone ⟨x, hmem⟩
    exact absurd (hnone _ hmem) (by simp [sameKey])
  · rintro hno ⟨k, x⟩ hmem
    refine Bool.eq_false_iff.mpr fun hkey => hno ⟨x, ?_⟩
    rw [← sameKey_text_right.mp hkey]
    exact hmem

/-- What a map holds under a text does not depend on entries under other keys. -/
theorem lookup?_filter_text
    {p : Value × Value → Bool}
    (h : ∀ v : Value, p (.text s, v) = true) (entries : List (Value × Value)) :
    lookup? (.text s) (entries.filter p) = lookup? (.text s) entries := by
  induction entries with
  | nil =>
      rfl
  | cons e entries ih =>
      obtain ⟨k, v⟩ := e
      by_cases hk : k = .text s
      · subst hk
        simp [List.filter_cons_of_pos (h v), lookup?, sameKey]
      · have hother : sameKey k (.text s) = false :=
          Bool.eq_false_iff.mpr fun hsame => hk (sameKey_text_right.mp hsame)
        rw [lookup?, hother, List.filter_cons]
        split
        · rw [lookup?, hother]
          exact ih
        · exact ih

/-- The keys after an assignment are those before it and the one assigned to. -/
theorem mem_assign
    {e : Value × Value}
    (h : e ∈ assign k v entries) :
    e ∈ entries ∨ e.2 = v ∧
      (e.1 = k ∨ ∃ x : Value, (e.1, x) ∈ entries ∧ sameKey e.1 k = true) := by
  induction entries with
  | nil =>
      obtain rfl := List.mem_singleton.mp h
      exact Or.inr ⟨rfl, Or.inl rfl⟩
  | cons e' rest ih =>
      obtain ⟨k', v'⟩ := e'
      rw [assign] at h
      split at h
      · rename_i hsame
        rcases List.mem_cons.mp h with rfl | hrest
        · exact Or.inr ⟨rfl, Or.inr ⟨v', List.mem_cons_self, hsame⟩⟩
        · exact Or.inl (List.mem_cons_of_mem _ hrest)
      · rcases List.mem_cons.mp h with rfl | hrest
        · exact Or.inl List.mem_cons_self
        · rcases ih hrest with hold | ⟨hv, hk | ⟨x, hx, hsame⟩⟩
          · exact Or.inl (List.mem_cons_of_mem _ hold)
          · exact Or.inr ⟨hv, Or.inl hk⟩
          · exact Or.inr ⟨hv, Or.inr ⟨x, List.mem_cons_of_mem _ hx, hsame⟩⟩

theorem mem_textKeys_assign_iff
    {s : String} :
    s ∈ textKeys (assign k v entries) ↔ s ∈ textKeys entries ∨ k = .text s := by
  have hlookup := lookup?_assign k v (.text s) entries
  by_cases hkey : sameKey k (.text s) = true
  · rw [if_pos hkey] at hlookup
    have hmem : s ∈ textKeys (assign k v entries) :=
      mem_textKeys_iff.mpr ⟨v, mem_of_lookup?_text hlookup⟩
    exact iff_of_true hmem (Or.inr (sameKey_text_right.mp hkey))
  · have hne : k ≠ .text s := fun h => hkey (sameKey_text_right.mpr h)
    rw [if_neg hkey] at hlookup
    have hnone := congrArg (· = none) hlookup
    simp only [lookup?_text_eq_none_iff, eq_iff_iff, not_iff_not] at hnone
    simp [hnone, hne]

theorem nodup_textKeys_assign
    (h : (textKeys entries).Nodup) (k v : Value) :
    (textKeys (assign k v entries)).Nodup := by
  induction entries with
  | nil =>
      cases k <;> simp [assign, textKeys, text?]
  | cons e rest ih =>
      obtain ⟨k', v'⟩ := e
      rw [assign]
      split
      · exact h
      · rename_i hsame
        cases hk' : k'.text? with
        | none =>
            simp only [textKeys, List.filterMap_cons, hk'] at h ⊢
            exact ih h
        | some s =>
            obtain rfl := text?_eq_some_iff.mp hk'
            simp only [textKeys, List.filterMap_cons, text?, List.nodup_cons] at h ⊢
            refine ⟨?_, ih h.2⟩
            intro hmem
            rcases mem_textKeys_assign_iff.mp hmem with hold | rfl
            · exact h.1 hold
            · exact hsame (sameKey_text_left.mpr rfl)

/-- A textual key that is not there yet comes last. -/
theorem assign_text_of_not_mem
    (h : s ∉ textKeys entries) (v : Value) :
    assign (.text s) v entries = entries ++ [(.text s, v)] :=
  assign_of_lookup?_eq_none (lookup?_text_eq_none_iff.mpr h) v

/-- Entries whose keys are texts, each there once, make up a map as they are. -/
theorem ofEntries_of_nodup
    (hnodup : (textKeys entries).Nodup)
    (htext : ∀ e ∈ entries, ∃ s : String, e.1 = .text s) :
    ofEntries entries = .map entries := by
  induction entries using List.reverseRecOn with
  | nil =>
      rfl
  | append_singleton entries e ih =>
      obtain ⟨s, hs⟩ := htext e (by simp)
      obtain ⟨k, v⟩ := e
      obtain rfl : k = .text s := hs
      rw [textKeys, List.filterMap_append, List.nodup_append] at hnodup
      have hbefore := ih hnodup.1 fun e he => htext e (List.mem_append_left _ he)
      have hnew : s ∉ textKeys entries :=
        fun hmem => hnodup.2.2 s hmem s (by simp [text?]) rfl
      rw [ofEntries, Value.map.injEq] at hbefore
      rw [ofEntries, List.foldl_append, hbefore, List.foldl_cons, List.foldl_nil,
        assign_text_of_not_mem hnew]

end Keys

end Value
end HdlLint
