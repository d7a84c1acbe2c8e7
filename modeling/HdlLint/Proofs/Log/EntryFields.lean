import HdlLint.Log.Line
import HdlLint.Proofs.Value.JsonRoundTrip
import HdlLint.Proofs.Value.TextKeys

/-!
# What an entry tells

The entry of an event holds its fields, its text, its level, the time and the run that is
on.  A field whose name the log uses for something of its own is not kept; every other one
is.  An entry of texts, truth values, integers and nothings is a plain map, so that it is
read back from its JSON text.

* `get?_ofEvent`: what the entry of an event holds under a name.
* `tells_ofEvent`: what is written of the entry of an event.
* `isPlain_written_ofEvent`, `isPlain_written_ofMessage`: entries that are read back.
-/

namespace HdlLint

open Value.Json (IsPlain FewDigits)

/-- A value that is no collection: nothing, a truth value, a text, or an integer that is
not too long. -/
def Value.IsScalar : Value → Prop
  | .null => True
  | .bool _ => True
  | .text _ => True
  | .int i => FewDigits i
  | _ => False

/-- All fields of an event are scalars. -/
def Event.HasScalarFields (e : Event) : Prop :=
  ∀ f ∈ e.fields, f.2.IsScalar

namespace LogEntry

/-- The names under which an entry tells something else than a field, or nothing. -/
def reservedNames : List String :=
  ["event", "level", "timestamp", "run_id"] ++ internalNames

/-- An entry that tells all of an event and of its moment, and nothing else. -/
structure Tells (entry : LogEntry) (source : Option String) (e : Event) (m : LogMoment) :
    Prop where
  text : entry.get? "event" = some (.text e.text)
  level : entry.get? "level" = some (.text e.level.name)
  time : entry.get? "timestamp" = some (.text m.time)
  run : entry.get? "run_id" = (m.run.map Value.text).or (e.fields.reverse.lookup "run_id")
  source : entry.get? "logger" = (e.fields.reverse.lookup "logger").or
    ((source.filter (· ≠ "")).map Value.text)
  field : ∀ name : String, name ∉ reservedNames → name ≠ "logger" →
    entry.get? name = e.fields.reverse.lookup name

section Names

variable {entry : LogEntry} {name : String}

theorem get?_set
    (entry : LogEntry) (name : String) (v : Value) (name' : String) :
    (entry.set name v).get? name' = if name =
      name' then some v else entry.get? name' := by
  rw [set, get?, Value.lookup?_assign]
  simp [Value.sameKey, get?]

theorem get?_foldl_set
    (fields : List (String × Value)) (entry : LogEntry) (name : String) :
    (fields.foldl (fun (acc : LogEntry) f => acc.set f.1 f.2) entry).get? name =
      (fields.reverse.lookup name).or (entry.get? name) := by
  induction fields generalizing entry with
  | nil =>
      rfl
  | cons f fields ih =>
      rw [List.foldl_cons, ih, get?_set, List.reverse_cons,
        List.lookup_append, Option.or_assoc]
      obtain ⟨k, v⟩ := f
      by_cases hk : k = name
      · simp [hk]
      · have hne : (name == k) = false := beq_eq_false_iff_ne.mpr (Ne.symm hk)
        simp [hk, hne, List.lookup_cons]

theorem get?_written
    (entry : LogEntry)
    (h : name ∉ internalNames) :
    entry.written.get? name = entry.get? name := by
  refine Value.lookup?_filter_text (fun v => ?_) entry
  simp only [Bool.not_eq_true', List.any_eq_false]
  intro n hn hsame
  obtain rfl := Value.text.inj (Value.sameKey_text_right.mp hsame)
  exact h hn

/-- What an entry holds when it is stamped. -/
theorem get?_stamp
    (entry : LogEntry) (level : String) (m : LogMoment) (name : String) :
    (entry.stamp level m).get? name =
      (if name = "run_id" then m.run.map Value.text else none).or
        (if name = "timestamp" then some (.text m.time)
          else if name = "level" then some (.text level) else entry.get? name) := by
  unfold stamp
  cases m.run with
  | none =>
      simp only [get?_set, eq_comm (b := name), Option.map_none, ite_self, Option.none_or]
  | some id =>
      simp only [get?_set, eq_comm (b := name), Option.map_some]
      by_cases hrun : name = "run_id" <;> simp [hrun]

/-- The name of the source comes before the fields. -/
def ofSource (source : Option String) : LogEntry :=
  match source with
  | some name => if name = "" then [] else [(.text "logger", .text name)]
  | none => []

theorem get?_ofSource
    (source : Option String) (name : String) :
    (ofSource source).get? name =
      if name = "logger" then (source.filter (· ≠ "")).map Value.text else none := by
  cases source with
  | none => simp [ofSource, get?, Value.lookup?]
  | some s =>
      by_cases hs : s = ""
      · simp [ofSource, hs, get?, Value.lookup?, Option.filter]
      · by_cases hname : name = "logger"
        · simp [ofSource, hs, hname, get?, Value.lookup?, Value.sameKey, Option.filter]
        · simp [ofSource, hs, hname, Ne.symm hname, get?, Value.lookup?, Value.sameKey]

/-- What the entry of an event holds under a name. -/
theorem get?_ofEvent
    (source : Option String) (e : Event) (m : LogMoment) (name : String) :
    (ofEvent source e m).get? name =
      (if name = "run_id" then m.run.map Value.text else none).or
        (if name = "timestamp" then some (.text m.time)
          else if name = "level" then some (.text e.level.name)
          else if name = "event" then some (.text e.text)
          else (e.fields.reverse.lookup name).or
            (if name = "logger" then (source.filter (· ≠ "")).map Value.text
              else none)) := by
  have hentry : ofEvent source e m =
      ((e.fields.foldl (fun (acc : LogEntry) f => acc.set f.1 f.2) (ofSource source)).set
        "event" (.text e.text)).stamp
        e.level.name m := rfl
  rw [hentry, get?_stamp, get?_set, get?_foldl_set, get?_ofSource]
  simp only [eq_comm (b := name)]

/-- The entry of an event names the run that is on, or else what its own fields hold. -/
theorem get?_ofEvent_run
    (source : Option String) (e : Event) (m : LogMoment) :
    (ofEvent source e m).get? "run_id" =
      (m.run.map Value.text).or (e.fields.reverse.lookup "run_id") := by
  rw [get?_ofEvent]
  simp

theorem get?_ofMessage_run
    (level text : String) (m : LogMoment) :
    (ofMessage level text m).get? "run_id" = m.run.map Value.text := by
  rw [ofMessage, get?_stamp, get?_set]
  simp [get?, Value.lookup?]

theorem tells_ofEvent
    (source : Option String) (e : Event) (m : LogMoment) :
    (ofEvent source e m).written.Tells source e m where
  text := by
    rw [get?_written _ (by decide), get?_ofEvent]
    rfl
  level := by
    rw [get?_written _ (by decide), get?_ofEvent]
    rfl
  time := by
    rw [get?_written _ (by decide), get?_ofEvent]
    rfl
  run := by
    rw [get?_written _ (by decide), get?_ofEvent_run]
  source := by
    rw [get?_written _ (by decide), get?_ofEvent]
    simp
  field name hname hlogger := by
    simp only [reservedNames, List.cons_append, List.nil_append,
      List.mem_cons, not_or] at hname
    obtain ⟨hevent, hlevel, htime, hrun, hinternal⟩ := hname
    rw [get?_written _ (by simpa [internalNames] using hinternal), get?_ofEvent]
    simp [hevent, hlevel, htime, hrun, hlogger]

end Names

section Plain

variable {entry : LogEntry}

theorem isScalar_text
    (s : String) :
    (Value.text s).IsScalar :=
  trivial

theorem isPlain_of_isScalar
    {v : Value}
    (h : v.IsScalar) :
    IsPlain v := by
  cases v <;> first | exact h | trivial

theorem isPlain_set
    {v : Value}
    (h : IsPlain (.map entry))
    (hv : v.IsScalar) (name : String) :
    IsPlain (.map (entry.set name v)) := by
  obtain ⟨hentries, hnodup⟩ := h
  refine ⟨Value.Json.arePlainEntries_iff.mpr fun e he => ?_,
    Value.nodup_textKeys_assign hnodup _ _⟩
  have hplain := Value.Json.arePlainEntries_iff.mp hentries
  rcases Value.mem_assign he with hold | ⟨hvalue, hkey | ⟨x, hx, -⟩⟩
  · exact hplain e hold
  · exact ⟨⟨name, hkey⟩, hvalue ▸ isPlain_of_isScalar hv⟩
  · exact ⟨(hplain _ hx).1, hvalue ▸ isPlain_of_isScalar hv⟩

theorem isPlain_stamp
    (h : IsPlain (.map entry)) (level : String) (m : LogMoment) :
    IsPlain (.map (entry.stamp level m)) := by
  have hstamped :=
    isPlain_set (isPlain_set h (isScalar_text level) "level")
      (isScalar_text m.time) "timestamp"
  unfold stamp
  cases m.run with
  | none => exact hstamped
  | some id => exact isPlain_set hstamped (isScalar_text id) "run_id"

theorem isPlain_written
    (h : IsPlain (.map entry)) :
    IsPlain (.map entry.written) := by
  obtain ⟨hentries, hnodup⟩ := h
  have hplain := Value.Json.arePlainEntries_iff.mp hentries
  refine ⟨Value.Json.arePlainEntries_iff.mpr fun e he =>
    hplain e (List.mem_of_mem_filter he), ?_⟩
  exact hnodup.sublist (List.filter_sublist.filterMap _)

theorem isPlain_written_ofMessage
    (level text : String) (m : LogMoment) :
    IsPlain (.map (ofMessage level text m).written) := by
  have hnothing : IsPlain (.map []) := ⟨trivial, List.nodup_nil⟩
  exact isPlain_written
    (isPlain_stamp (isPlain_set hnothing (isScalar_text text) "event") level m)

theorem isPlain_written_ofEvent
    {e : Event}
    (h : e.HasScalarFields) (source : Option String) (m : LogMoment) :
    IsPlain (.map (ofEvent source e m).written) := by
  have hfields : ∀ (fields : List (String × Value)) (entry : LogEntry),
      (∀ f ∈ fields, f.2.IsScalar) →
      IsPlain (.map entry) →
        IsPlain (.map
          (fields.foldl (fun (acc : LogEntry) f => acc.set f.1 f.2) entry)) := by
    intro fields
    induction fields with
    | nil => exact fun _ _ hentry => hentry
    | cons f fields ih =>
        intro entry hscalar hentry
        exact ih _ (fun x hx => hscalar x (List.mem_cons_of_mem _ hx))
          (isPlain_set hentry (hscalar f List.mem_cons_self) f.1)
  have hsource : IsPlain (.map (ofSource source)) := by
    unfold ofSource
    split
    · split
      · exact ⟨trivial, List.nodup_nil⟩
      · exact ⟨⟨⟨"logger", rfl⟩, trivial, trivial⟩, List.nodup_singleton _⟩
    · exact ⟨trivial, List.nodup_nil⟩
  have hnamed := hfields e.fields (ofSource source) h hsource
  exact isPlain_written
    (isPlain_stamp (isPlain_set hnamed (isScalar_text e.text) "event") e.level.name m)

end Plain

end LogEntry
end HdlLint
