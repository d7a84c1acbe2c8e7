import HdlLint.Store.Basic
import Mathlib.Tactic

/-!
# Cascades of changes

What listeners that only make changes cause is described by jobs: a change is to be made,
or a listener is to be told of a change.  `Cascade` says what carrying out some jobs in
order leads to.  A change that is made is told to every listener before the next job, and
what a listener makes of it is done before the next listener is told; this is where a
newer change overtakes an older one.  Changes are numbered in the order in which they are
made.

* `Cascade.split` and `Cascade.unique`: cascades are composed of cascades, and their logs
  are determined.
* `Cascade.number_eq` and `Cascade.content_eq`: the log holds every change.
* `Cascade.told_mem`: every job of telling is carried out.
-/

namespace HdlLint

/-- The change that a reaction makes. -/
def Reaction.change? : Reaction → Option Change
  | publish c => some c
  | _ => none

/-- The changes that a listener makes when it is told of a content. -/
def Listener.changes (l : Listener) (content : DiagnosticSet) : List Change :=
  (l.react content).filterMap Reaction.change?

namespace DiagnosticStore

/-- Something to be done: a change, or a call of a listener with the content after the
change of this number. -/
inductive Job where
  | make (c : Change)
  | tell (number : Nat) (l : Listener) (content : DiagnosticSet)

/-- Something that was done. -/
inductive Entry where
  | made (content : DiagnosticSet)
  | told (number : Nat) (notice : Notice)

/-- The content of the store and the number of the last change. -/
structure Point where
  content : DiagnosticSet
  number : Nat

/-- The point after a change. -/
def Point.next (p : Point) (c : Change) : Point :=
  ⟨c.apply p.content, p.number + 1⟩

/-- The listeners are to be told of the change that led to a point. -/
def tellAll (listeners : List Listener) (p : Point) : List Job :=
  listeners.map fun l => .tell p.number l p.content

/-- A listener reacts to a content. -/
def reactAll (l : Listener) (content : DiagnosticSet) : List Job :=
  (l.changes content).map .make

/-- Carrying out jobs in order leads from one point to another, with this log. -/
inductive Cascade (listeners : List Listener) : List Job → Point →
    List Entry → Point → Prop
  | nil
      (p : Point) :
      Cascade listeners [] p [] p
  | make
      {c : Change} {rest : List Job} {p q r : Point} {log log' : List Entry}
      (told : Cascade listeners (tellAll listeners (p.next c)) (p.next c) log q)
      (later : Cascade listeners rest q log' r) :
      Cascade listeners (.make c :: rest) p (.made (p.next c).content :: (log ++ log')) r
  | tell
      {number : Nat} {l : Listener} {content : DiagnosticSet} {rest : List Job}
      {p q r : Point} {log log' : List Entry}
      (reaction : Cascade listeners (reactAll l content) p log q)
      (later : Cascade listeners rest q log' r) :
      Cascade listeners (.tell number l content :: rest) p
        (.told number ⟨l.name, content⟩ :: (log ++ log')) r

/-- The contents after the changes of a log, in the order of the changes. -/
def contents (log : List Entry) : List DiagnosticSet :=
  log.filterMap fun
    | .made content => some content
    | .told _ _ => none

/-- The notices of a log in order, with the numbers of the changes they are about. -/
def told (log : List Entry) : List (Nat × Notice) :=
  log.filterMap fun
    | .made _ => none
    | .told number notice => some (number, notice)

section Logs

variable (content : DiagnosticSet) (number : Nat) (notice : Notice)
  (log log' : List Entry)

@[simp] theorem contents_nil :
    contents [] = [] :=
  rfl

@[simp] theorem contents_made :
    contents (.made content :: log) = content :: contents log :=
  rfl

@[simp] theorem contents_told :
    contents (.told number notice :: log) = contents log :=
  rfl

@[simp] theorem contents_append :
    contents (log ++ log') = contents log ++ contents log' :=
  List.filterMap_append

@[simp] theorem told_nil :
    told [] = [] :=
  rfl

@[simp] theorem told_made :
    told (.made content :: log) = told log :=
  rfl

@[simp] theorem told_told :
    told (.told number notice :: log) = (number, notice) :: told log :=
  rfl

@[simp] theorem told_append :
    told (log ++ log') = told log ++ told log' :=
  List.filterMap_append

end Logs

namespace Cascade

variable {listeners : List Listener} {jobs jobs' : List Job}
variable {p q r : Point} {log log' : List Entry}

theorem append
    (h : Cascade listeners jobs p log q)
    (h' : Cascade listeners jobs' q log' r) :
    Cascade listeners (jobs ++ jobs') p (log ++ log') r := by
  induction h with
  | nil p =>
      exact h'
  | make told later _ ih =>
      rw [List.cons_append, List.cons_append, List.append_assoc]
      exact .make told (ih h')
  | tell reaction later _ ih =>
      rw [List.cons_append, List.cons_append, List.append_assoc]
      exact .tell reaction (ih h')

theorem split
    (h : Cascade listeners (jobs ++ jobs') p log r) :
    ∃ (q : Point) (first second : List Entry),
      Cascade listeners jobs p first q ∧
      Cascade listeners jobs' q second r ∧
      log = first ++ second := by
  induction jobs generalizing p log with
  | nil =>
      exact ⟨p, [], log, .nil p, h, rfl⟩
  | cons job jobs ih =>
      cases h with
      | make told later =>
          obtain ⟨q, first, second, hfirst, hsecond, rfl⟩ := ih later
          exact ⟨q, _, second, .make told hfirst, hsecond, by simp⟩
      | tell reaction later =>
          obtain ⟨q, first, second, hfirst, hsecond, rfl⟩ := ih later
          exact ⟨q, _, second, .tell reaction hfirst, hsecond, by simp⟩

theorem unique
    (h : Cascade listeners jobs p log q)
    (h' : Cascade listeners jobs p log' r) :
    log = log' ∧ q = r := by
  induction h generalizing log' r with
  | nil p =>
      cases h'
      exact ⟨rfl, rfl⟩
  | make told later ihtold ihlater =>
      cases h' with
      | make told' later' =>
          obtain ⟨rfl, rfl⟩ := ihtold told'
          obtain ⟨rfl, rfl⟩ := ihlater later'
          exact ⟨rfl, rfl⟩
  | tell reaction later ihreaction ihlater =>
      cases h' with
      | tell reaction' later' =>
          obtain ⟨rfl, rfl⟩ := ihreaction reaction'
          obtain ⟨rfl, rfl⟩ := ihlater later'
          exact ⟨rfl, rfl⟩

/-- The changes of a log are numbered without gaps. -/
theorem number_eq
    (h : Cascade listeners jobs p log q) :
    q.number = p.number + (contents log).length := by
  induction h with
  | nil p =>
      rfl
  | make told later ihtold ihlater =>
      simp only [contents_made, contents_append, List.length_cons,
        List.length_append, Point.next] at *
      omega
  | tell reaction later ihreaction ihlater =>
      simp only [contents_told, contents_append, List.length_append] at *
      omega

/-- The last change of a log made the content. -/
theorem content_eq
    (h : Cascade listeners jobs p log q) :
    q.content = (contents log).getLast?.getD p.content := by
  induction h with
  | nil p =>
      rfl
  | @make c rest p q r log log' told later ihtold ihlater =>
      rw [ihlater, ihtold]
      cases hlater : (contents log').getLast? <;> cases htold :
        (contents log).getLast? <;>
        simp [List.getLast?_cons, List.getLast?_append, hlater, htold]
  | @tell number l content rest p q r log log' reaction later ihreaction ihlater =>
      rw [ihlater, ihreaction]
      cases hlater : (contents log').getLast? <;>
        simp [List.getLast?_append, hlater]

/-- Every job of telling is carried out. -/
theorem told_mem
    {number : Nat} {l : Listener} {content : DiagnosticSet}
    (h : Cascade listeners jobs p log q)
    (hjob : .tell number l content ∈ jobs) :
    (number, ⟨l.name, content⟩) ∈ told log := by
  induction h with
  | nil p =>
      cases hjob
  | make told later _ ihlater =>
      rcases List.mem_cons.mp hjob with hfirst | hrest
      · cases hfirst
      · simp [ihlater hrest]
  | tell reaction later _ ihlater =>
      rcases List.mem_cons.mp hjob with hfirst | hrest
      · cases hfirst
        simp
      · simp [ihlater hrest]

end Cascade
end DiagnosticStore
end HdlLint
