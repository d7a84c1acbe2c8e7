import HdlLint.Proofs.Diagnostic.WellFormed
import HdlLint.Proofs.Session.Content
import HdlLint.Proofs.Session.RunStages

/-!
# What a session can store

The content of a store that begins empty stays sound over any steps of a session, as long
as no one puts diagnostics into it that do not come from a run.  Listeners may fail, end
subscriptions, alter what they are shown and make further changes.

* `StoreSound.publish`: one change.
* `StoreSound.step`: one step of a session.
* `stored_diagnostics_sound`: every state that can be reached.
-/

namespace HdlLint

/-- A change that brings no diagnostics into the store but sound ones. -/
def Change.KeepsSound : Change → Prop
  | replace found => found.Sound
  | clear => True
  | delete _ => True

/-- A listener whose changes bring no diagnostics into the store but sound ones. -/
def Listener.KeepsSound (l : Listener) : Prop :=
  ∀ (content : DiagnosticSet) (c : Change), .publish c ∈ l.react content → c.KeepsSound

/-- A step that brings no diagnostics into the store but sound ones, besides those of a
run. -/
def Session.Step.KeepsSound : Session.Step → Prop
  | change c => c.KeepsSound
  | subscribe l => l.KeepsSound
  | _ => True

/-- The content of the store is sound, and no listener changes that. -/
structure StoreSound (s : DiagnosticStore) : Prop where
  content : s.current.Sound
  listeners : ∀ l ∈ s.listeners, l.KeepsSound

section Changes

open DiagnosticStore

variable {s : DiagnosticStore} {c : Change}

theorem sound_apply
    {content : DiagnosticSet}
    (hc : c.KeepsSound)
    (h : content.Sound) :
    (c.apply content).Sound := by
  cases c with
  | replace found =>
      exact hc
  | clear =>
      exact DiagnosticSet.sound_empty
  | delete path =>
      exact h.without path

/-- A change and all that listeners make of it keep the store sound, also when a listener
fails. -/
theorem StoreSound.publish
    (h : StoreSound s)
    (hc : c.KeepsSound) :
    StoreSound (s.publish c).store := by
  let I (t : DiagnosticStore) (_ : Option Crash) : Prop :=
    (∀ l ∈ t.listeners, l ∈ s.listeners) ∧ t.current.Sound
  have hI : Keeps s.listeners I :=
    { subscribed := fun ht => ht.1
      change := fun hl hmem ht => ⟨ht.1, sound_apply (h.listeners _ hl _ _ hmem) ht.2⟩
      unsubscribe := fun name ht => ⟨fun l hl => ht.1 l (List.mem_of_mem_eraseP hl), ht.2⟩
      fail := fun _ _ ht => ht
      tooDeep := fun ht => ht }
  have hpublished : I (s.publish c).store (s.publish c).crash :=
    hI.publish ⟨fun l hl => hl, sound_apply hc h.content⟩
  exact ⟨hpublished.2, fun l hl => h.listeners l (hpublished.1 l hl)⟩

theorem StoreSound.subscribe
    {l : Listener}
    (h : StoreSound s)
    (hl : l.KeepsSound) :
    StoreSound (s.subscribe l) := by
  refine ⟨h.content, ?_⟩
  intro l' hl'
  rcases List.mem_append.mp hl' with hold | hnew
  · exact h.listeners l' hold
  · obtain rfl := List.mem_singleton.mp hnew
    exact hl

theorem StoreSound.unsubscribe
    (h : StoreSound s) (name : String) :
    StoreSound (s.unsubscribe name) :=
  ⟨h.content, fun l hl => h.listeners l (List.mem_of_mem_eraseP hl)⟩

/-- A run leaves the store alone or shows what was read from the output of its linter. -/
theorem StoreSound.complete
    (h : StoreSound s) (r : LintRequest) (i : Invocation) (child : ChildBehavior) :
    StoreSound (r.complete i child s).2.1 := by
  rcases r.complete_cases i child s with
    ⟨stop, -, -, hstore, -⟩ | ⟨output, -, -, hstore, -⟩
  · rw [hstore]
    exact h
  · rw [hstore, (r.collect_eq i output s).2.1]
    exact h.publish (c := .replace _) (DiagnosticSet.sound_read r.scope output.errors)

end Changes

namespace Session

variable {s : Session} {x : Step} {steps : List Step}

theorem StoreSound.step
    (h : StoreSound s.store)
    (hx : x.KeepsSound) :
    StoreSound (s.step x).store := by
  by_cases hrun : x.OnRun
  · rcases s.runStep_cases hrun with ⟨-, hstore⟩ | ⟨r, i, child, -, hstore⟩
    · rw [hstore]
      exact h
    · rw [hstore]
      exact h.complete r i child
  · cases x with
    | updateSettings settings =>
        exact h
    | closeDocument document =>
        exact h.publish (c := .delete document.path) trivial
    | change c =>
        exact h.publish hx
    | subscribe l =>
        exact h.subscribe hx
    | unsubscribe name =>
        exact h.unsubscribe name
    | _ =>
        exact (hrun trivial).elim

theorem StoreSound.after
    (h : StoreSound s.store)
    (hsteps : ∀ x ∈ steps, x.KeepsSound) :
    StoreSound (s.after steps).store := by
  induction steps generalizing s with
  | nil =>
      exact h
  | cons x rest ih =>
      exact ih (StoreSound.step h (hsteps x List.mem_cons_self)) fun y hy =>
        hsteps y (List.mem_cons_of_mem _ hy)

/-- A store that begins empty holds one group for every file, no empty group, every
diagnostic in the group of its path, and well-formed diagnostics only.  So its truth
value, its size and its files tell alike whether something is there. -/
theorem stored_diagnostics_sound
    (hempty : s.store.current = .empty)
    (hlisteners : ∀ l ∈ s.store.listeners, l.KeepsSound)
    (hsteps : ∀ x ∈ steps, x.KeepsSound) :
    let content := (s.after steps).store.current
    content.files.Nodup ∧
    (∀ g ∈ content.groups, g.2 ≠ [] ∧ ∀ d ∈ g.2, d.path = g.1) ∧
    (∀ d ∈ content.toList, d.WellFormed) ∧
    (content.isNonempty = true ↔ 0 < content.size) ∧
    (content.isNonempty = true ↔ content.files ≠ []) := by
  intro content
  have hstart : StoreSound s.store := by
    refine ⟨?_, hlisteners⟩
    rw [hempty]
    exact DiagnosticSet.sound_empty
  obtain ⟨hgrouped, hwellFormed⟩ := (StoreSound.after hstart hsteps).content
  refine ⟨hgrouped.files_nodup, ?_, hwellFormed, hgrouped.nonempty_iff⟩
  exact fun g hg => ⟨hgrouped.group_nonempty g hg, hgrouped.path_eq g hg⟩

/-- Two overlapping runs of which one writes bytes that are no text, a listener that
closes a file as soon as it is shown, and another one that fails. -/
theorem stored_diagnostics_sound_overlapping :
    let closer : Listener :=
      ⟨"A", fun content =>
        if content.contains "/w/b.v" then [.publish (.delete "/w/b.v")] else []⟩
    let failer : Listener :=
      ⟨"B", fun content =>
        if content.contains "/w/a.v" then [.fail (.of .runtime "boom")] else []⟩
    let s : Session := ⟨.empty, {}, some "/w", .host, .function .ok, []⟩
    let document : Document := ⟨"/w/a.v", plainLanguage⟩
    let steps : List Step :=
      [.subscribe closer, .subscribe failer,
        .start "first" document
          (.ends [] ("%Error-WIDTH: b.v:2: ".toUTF8.toList ++ [0xFF]) (some 1)) true true,
        .start "second" document
          (.ends [] "%Error: a.v:3:4: m\n%Warning: b.v:1: n".toUTF8.toList none) true
          true,
        .finish "second", .finish "first", .change (.delete "/w/c.v")]
    let content := (s.after steps).store.current
    let earlier := (s.after (steps.take 5)).store.current
    content.files.Nodup ∧ content.isNonempty = false ∧
      earlier.files = ["/w/a.v"] ∧ ∀ d ∈ earlier.toList, d.WellFormed := by
  intro closer failer s document steps content earlier
  have hcloser : closer.KeepsSound := by
    intro shown c hc
    simp only [closer] at hc
    split at hc
    · obtain rfl : c = .delete "/w/b.v" := by simpa using hc
      trivial
    · cases hc
  have hfailer : failer.KeepsSound := by
    intro shown c hc
    simp only [failer] at hc
    split at hc <;> simp at hc
  have hsteps : ∀ x ∈ steps, x.KeepsSound := by
    simp [steps, Step.KeepsSound, Change.KeepsSound, hcloser, hfailer]
  have hnone : ∀ l ∈ s.store.listeners, l.KeepsSound := by
    simp [s, DiagnosticStore.empty]
  have hall := @stored_diagnostics_sound s steps rfl hnone hsteps
  have hearlier := @stored_diagnostics_sound s (steps.take 5) rfl hnone fun x hx =>
    hsteps x (List.mem_of_mem_take hx)
  exact ⟨hall.1, by decide +kernel, by decide +kernel, hearlier.2.2.1⟩

end Session
end HdlLint
