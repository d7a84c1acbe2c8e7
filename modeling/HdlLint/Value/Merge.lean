import HdlLint.Value.Basic

/-!
# Deep merging of maps

`merge base override` is the map `base` with the entries of `override` laid over it. Where
both have a map at a key, these are merged in turn; everywhere else the entry of
`override` wins. Keys of `base` keep their places and new keys follow in the order of
`override`.

Maps that contain themselves are merged by `merge?`, which looks into them as deep as it
has to. Where it would have to look for ever, because both maps go on at the same keys
without an end, there is no outcome.
-/

namespace HdlLint.Value

mutual

/-- What a key holds after an override has been laid over what it held. -/
def overlay (old : Option Value) : Value → Value
  | .map entries =>
    match old with
    | some (.map base) => .map (mergeEntries base entries)
    | _ => .map entries
  | v => v

/-- The entries of one map laid over those of another. -/
def mergeEntries (base : List (Value × Value)) :
    List (Value × Value) → List (Value × Value)
  | [] => base
  | (k, v) :: r => mergeEntries (assign k (overlay (lookup? k base) v) base) r

end

/-- One map laid over another. A value that is no map replaces what was there. -/
def merge (base override : Value) : Value :=
  overlay (some base) override

mutual

/-- The number of places in a value at which something stands. -/
def places : Value → Nat
  | .list xs => placesIn xs + 1
  | .tuple xs => placesIn xs + 1
  | .set xs => placesIn xs + 1
  | .map es => placesInEntries es + 1
  | .cycle _ v => places v
  | _ => 1

/-- The number of places in the members of a collection. -/
def placesIn : List Value → Nat
  | [] => 0
  | x :: xs => places x + placesIn xs

/-- The number of places in the entries of a map. -/
def placesInEntries : List (Value × Value) → Nat
  | [] => 0
  | (_, v) :: r => places v + placesInEntries r

end

/-- One map laid over another, looked into so many times at most. -/
def mergeWithin : Nat → Value → Value → Option Value
  | 0, _, _ => none
  | depth + 1, base, override =>
    match base.unfold, override.unfold with
    | .map base, .map entries => do
      let merged ← entries.foldlM
        (fun acc (k, v) => do
          let v ← match lookup? k acc with
            | some old => mergeWithin depth old v
            | none => some v
          pure (assign k v acc)) base
      pure (.map merged)
    | _, _ => some override

/-- One map laid over another, unless that would not end. It ends before two places of the
two maps meet again. -/
def merge? (base override : Value) : Option Value :=
  if base.hasCycle || override.hasCycle then
    mergeWithin (base.places * override.places + 1) base override
  else some (base.merge override)

/-- Maps without cycles can always be merged. -/
theorem merge?_of_hasCycle_eq_false {base override : Value} (hb : base.hasCycle = false)
    (ho : override.hasCycle = false) :
    base.merge? override = some (base.merge override) := by
  simp [merge?, hb, ho]

end HdlLint.Value
