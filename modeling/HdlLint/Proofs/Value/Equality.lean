import HdlLint.Settings.Load

/-!
# Equality of values

Values are equal if they are built in the same way.  This is finer than being the same
key, and it can be computed, so what a document or a check gives can be compared.
-/

namespace HdlLint
namespace Value

mutual

/-- Whether two values are built in the same way. -/
def equals : Value → Value → Bool
  | .null, .null => true
  | .bool a, .bool b => a = b
  | .int i, .int j => i = j
  | .real x, .real y => x = y
  | .text s, .text t => s = t
  | .bytes b, .bytes c => b = c
  | .date d, .date e => d = e
  | .time t, .time u => t = u
  | .list xs, .list ys => equalsAll xs ys
  | .tuple xs, .tuple ys => equalsAll xs ys
  | .set xs, .set ys => equalsAll xs ys
  | .map es, .map fs => equalsEntries es fs
  | .cycle l v, .cycle m w => l = m && equals v w
  | .back l, .back m => l = m
  | _, _ => false

/-- Whether the members of two collections are built in the same way. -/
def equalsAll : List Value → List Value → Bool
  | [], [] => true
  | x :: xs, y :: ys => equals x y && equalsAll xs ys
  | _, _ => false

/-- Whether the entries of two maps are built in the same way. -/
def equalsEntries : List (Value × Value) → List (Value × Value) → Bool
  | [], [] => true
  | (k, v) :: es, (l, w) :: fs => equals k l && equals v w && equalsEntries es fs
  | _, _ => false

end

mutual

theorem equals_iff
    (a b : Value) :
    equals a b = true ↔ a = b := by
  cases a with
  | list xs =>
      cases b <;> simp [equals, equalsAll_iff xs]
  | tuple xs =>
      cases b <;> simp [equals, equalsAll_iff xs]
  | set xs =>
      cases b <;> simp [equals, equalsAll_iff xs]
  | map es =>
      cases b <;> simp [equals, equalsEntries_iff es]
  | cycle l v =>
      cases b <;> simp [equals, equals_iff v]
  | _ => cases b <;> simp [equals]

theorem equalsAll_iff
    (xs ys : List Value) :
    equalsAll xs ys = true ↔ xs = ys := by
  cases xs with
  | nil =>
      cases ys <;> simp [equalsAll]
  | cons x xs =>
      cases ys <;> simp [equalsAll, equals_iff x, equalsAll_iff xs]

theorem equalsEntries_iff
    (es fs : List (Value × Value)) :
    equalsEntries es fs = true ↔ es = fs := by
  cases es with
  | nil =>
      cases fs <;> simp [equalsEntries]
  | cons e es =>
      obtain ⟨k, v⟩ := e
      cases fs <;> simp [equalsEntries, equals_iff k, equals_iff v,
        equalsEntries_iff es, Prod.ext_iff]

end

instance : DecidableEq Value :=
  fun a b => decidable_of_iff _ (equals_iff a b)

end Value

deriving instance DecidableEq for Issue
deriving instance DecidableEq for Checked
deriving instance DecidableEq for ConfigFault
deriving instance DecidableEq for LoadStop

instance decidableEqExcept {ε α : Type} [DecidableEq ε] [DecidableEq α] :
    DecidableEq (Except ε α)
  | .ok a, .ok b => decidable_of_iff (a = b) (by simp)
  | .error e, .error f => decidable_of_iff (e = f) (by simp)
  | .ok _, .error _ => .isFalse (by simp)
  | .error _, .ok _ => .isFalse (by simp)

end HdlLint
