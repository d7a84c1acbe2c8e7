import HdlLint.Store.Basic
import Mathlib.Tactic

/-!
# Calls of listeners

One equation for each reaction of a listener that is called while nothing has failed, and
the fact that nothing more happens after a failure.
-/

namespace HdlLint
namespace DiagnosticStore

variable {publishInner : DiagnosticStore → Change → Publication}
variable {a : Announcement}

theorem carryOut_publish
    (ha : a.crash = none) (change : Change) :
    carryOut publishInner a (.publish change) =
      { a with
        store := (publishInner a.store change).store
        notices := a.notices ++ (publishInner a.store change).notices
        crash := (publishInner a.store change).crash } := by
  simp [carryOut, ha]

theorem carryOut_unsubscribe
    (ha : a.crash = none) (name : String) :
    carryOut publishInner a (.unsubscribe name) =
      { a with store := a.store.unsubscribe name } := by
  simp [carryOut, ha]

theorem carryOut_annotate
    (ha : a.crash = none) (d : Diagnostic) :
    carryOut publishInner a (.annotate d) = { a with snapshot := a.snapshot.add d } := by
  simp [carryOut, ha]

theorem announce_eq
    (ha : a.crash = none) (l : Listener) :
    announce publishInner a l =
      (l.react a.snapshot).foldl (carryOut publishInner)
        { a with notices := a.notices ++ [⟨l.name, a.snapshot⟩] } := by
  simp [announce, ha]

/-- After a failure no reaction is carried out. -/
theorem foldl_carryOut_of_crash
    {crash : Crash}
    (ha : a.crash = some crash) (reactions : List Reaction) :
    reactions.foldl (carryOut publishInner) a = a := by
  induction reactions with
  | nil =>
      rfl
  | cons r rest ih =>
      rw [List.foldl_cons]
      simpa [carryOut, ha] using ih

/-- After a failure no listener is called. -/
theorem foldl_announce_of_crash
    {crash : Crash}
    (ha : a.crash = some crash) (listeners : List Listener) :
    listeners.foldl (announce publishInner) a = a := by
  induction listeners with
  | nil =>
      rfl
  | cons l rest ih =>
      rw [List.foldl_cons]
      simpa [announce, ha] using ih

end DiagnosticStore
end HdlLint
