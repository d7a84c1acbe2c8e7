import HdlLint.Proofs.Fault.Stages
import HdlLint.Proofs.Value.MergedMaps
import HdlLint.Settings.Load

/-!
# Variables contain no cycles

JSON has no way to say that a collection contains itself, so the values of variables never
do.  They can therefore be merged into the files, even if these have such collections: as
many levels as the variables have are looked into, and no more.

* `mergeWithin_of_acyclic`: merging ends if the upper value does not contain itself.
* `hasCycle_read`, `hasCycle_readJson`: a value read from JSON does not.
* `sectionsOfVariables_eq_map`: neither do the sections of variables.
* `layer_sectionsOfVariables`: so they can always be merged into the files.
-/

namespace HdlLint

namespace Value

section Depth

variable {override : Value} {es : List (Value × Value)}

theorem places_le_of_mem
    {e : Value × Value}
    (h : e ∈ es) :
    e.2.places ≤ placesInEntries es := by
  induction es with
  | nil =>
      cases h
  | cons e' rest ih =>
      rw [placesInEntries]
      rcases List.mem_cons.mp h with rfl | hrest
      · exact Nat.le_add_right _ _
      · exact (ih hrest).trans (Nat.le_add_left _ _)

theorem hasCycle_of_mem
    {e : Value × Value}
    (hes : anyCycleEntry es = false)
    (h : e ∈ es) :
    e.2.hasCycle = false := by
  induction es with
  | nil =>
      cases h
  | cons e' rest ih =>
      simp only [anyCycleEntry, Bool.or_eq_false_iff] at hes
      rcases List.mem_cons.mp h with rfl | hrest
      · exact hes.1.2
      · exact ih hes.2 hrest

/-- A loop over a list succeeds if all of its steps do, from whatever they start. -/
theorem exists_foldlM_bind_eq_some
    {α β γ : Type} {f : β → α → Option β} {g : β → Option γ} {l : List α}
    (hf : ∀ x ∈ l, ∀ acc : β, ∃ acc' : β, f acc x = some acc')
    (hg : ∀ b : β, ∃ c : γ, g b = some c) (acc : β) :
    ∃ c : γ, (l.foldlM f acc >>= g) = some c := by
  induction l generalizing acc with
  | nil =>
      exact hg acc
  | cons x l ih =>
      obtain ⟨acc', hacc'⟩ := hf x List.mem_cons_self acc
      obtain ⟨c, hc⟩ := ih (fun y hy => hf y (List.mem_cons_of_mem _ hy)) acc'
      exact ⟨c, by simpa [List.foldlM_cons, hacc'] using hc⟩

/-- Merging ends if the upper value has no more places than may be looked into. -/
theorem mergeWithin_of_acyclic
    {base : Value} {depth : Nat}
    (hacyclic : override.hasCycle = false)
    (hdepth : override.places ≤ depth) :
    ∃ v : Value, mergeWithin depth base override = some v := by
  induction depth generalizing base override with
  | zero =>
      cases override <;> simp [places, hasCycle] at hdepth hacyclic
  | succ depth ih =>
      rw [mergeWithin, unfold_of_hasCycle_eq_false hacyclic]
      split
      · rename_i bs es hbs
        rw [hasCycle] at hacyclic
        rw [places] at hdepth
        have hentries : ∀ e ∈ es, ∀ old : Value, ∃ v : Value,
            mergeWithin depth old e.2 = some v := by
          intro e he old
          refine ih (hasCycle_of_mem hacyclic he) ?_
          have hplaces := places_le_of_mem he
          omega
        refine exists_foldlM_bind_eq_some ?_ (fun _ => ⟨_, rfl⟩) bs
        rintro ⟨k, v⟩ he acc
        cases hold : Value.lookup? k acc with
        | none =>
            exact ⟨assign k v acc, by simp [hold]⟩
        | some old =>
            obtain ⟨x, hx⟩ := hentries _ he old
            exact ⟨assign k x acc, by simp [hold, hx]⟩
      · exact ⟨_, rfl⟩

/-- A value that does not contain itself can be merged into any map. -/
theorem merge?_map_of_acyclic
    {bs : List (Value × Value)}
    (hacyclic : override.hasCycle = false) :
    ∃ v : Value, (Value.map bs).merge? override = some v := by
  rw [merge?]
  split
  · refine mergeWithin_of_acyclic hacyclic ?_
    rw [places, Nat.add_mul, Nat.one_mul]
    omega
  · exact ⟨_, rfl⟩

end Depth

section Entries

variable {es : List (Value × Value)}

theorem anyCycleEntry_foldl_assign
    {acc : List (Value × Value)}
    (hacc : anyCycleEntry acc = false)
    (hes : anyCycleEntry es = false) :
    anyCycleEntry (es.foldl (fun acc e => assign e.1 e.2 acc) acc) = false := by
  induction es generalizing acc with
  | nil =>
      exact hacc
  | cons e rest ih =>
      simp only [anyCycleEntry, Bool.or_eq_false_iff] at hes
      exact ih (anyCycleEntry_assign hacc hes.1.1 hes.1.2) hes.2

theorem hasCycle_ofEntries
    (hes : anyCycleEntry es = false) :
    (ofEntries es).hasCycle = false := by
  rw [ofEntries, hasCycle]
  exact anyCycleEntry_foldl_assign rfl hes

end Entries

section Json

theorem hasCycle_readNumber?
    {s rest : List Char} {v : Value}
    (h : Json.readNumber? s = some (v, rest)) :
    v.hasCycle = false := by
  rw [Json.readNumber?.eq_def] at h
  -- The sign only matters for the number itself.
  split at h
  simp only [Option.bind_eq_bind, Option.bind_eq_some_iff] at h
  obtain ⟨⟨whole, afterWhole⟩, -, h⟩ := h
  simp only at h
  split at h
  · split at h
    · cases h
    · obtain ⟨rfl, -⟩ := Prod.mk.inj (Option.some.inj h)
      rfl
  · obtain ⟨x, -, h⟩ := Option.bind_eq_some_iff.mp h
    obtain ⟨rfl, -⟩ := Prod.mk.inj (Option.some.inj h)
    rfl

theorem hasCycle_readPlain?
    {s rest : List Char} {v : Value}
    (h : Json.readPlain? s = some (v, rest)) :
    v.hasCycle = false := by
  rw [Json.readPlain?] at h
  split at h
  · rename_i found hfound
    obtain rfl := Option.some.inj h
    obtain ⟨w, hw, hmap⟩ := List.exists_of_findSome?_eq_some hfound
    obtain ⟨rest', -, heq⟩ := Option.map_eq_some_iff.mp hmap
    obtain rfl := (Prod.mk.inj heq).1
    simp only [List.mem_cons, List.not_mem_nil, or_false] at hw
    rcases hw with rfl | rfl | rfl | rfl | rfl | rfl <;> rfl
  · exact hasCycle_readNumber? h

theorem required_eq_ok_iff
    {α : Type} {found : Option α} {a : α} :
    Json.required found = .ok a ↔ found = some a := by
  cases found <;> simp [Json.required]

/-- What is read from JSON does not contain itself, by the levels that are read. -/
theorem hasCycle_read
    (fuel : Nat) :
    (∀ {room : Nat} {s rest : List Char} {v : Value},
      Json.read fuel room s = .ok (v, rest) → v.hasCycle = false) ∧
    (∀ {room : Nat} {s rest : List Char} {xs : List Value},
      Json.readItems fuel room s = .ok (xs, rest) → anyCycle xs = false) ∧
    ∀ {room : Nat} {s rest : List Char} {es : List (Value × Value)},
      Json.readEntries fuel room s = .ok (es, rest) → anyCycleEntry es = false := by
  induction fuel with
  | zero =>
      refine ⟨?_, ?_, ?_⟩
      · intro room s rest v h
        rw [Json.read] at h
        cases h
      · intro room s rest xs h
        rw [Json.readItems] at h
        cases h
      · intro room s rest es h
        rw [Json.readEntries] at h
        cases h
  | succ fuel ih =>
      obtain ⟨ihValue, ihItems, ihEntries⟩ := ih
      refine ⟨?_, ?_, ?_⟩
      · intro room s rest v h
        rw [Json.read.eq_def] at h
        simp only at h
        split at h
        · obtain ⟨_, -, heq⟩ := exceptMap_ok h
          obtain ⟨rfl, -⟩ := Prod.mk.inj heq
          rfl
        · split at h
          · cases h
          · split at h
            · obtain ⟨rfl, -⟩ := Prod.mk.inj (Except.ok.inj h)
              rfl
            · obtain ⟨⟨xs, rest'⟩, hxs, heq⟩ := exceptMap_ok h
              obtain ⟨rfl, -⟩ := Prod.mk.inj heq
              rw [hasCycle]
              exact ihItems hxs
        · split at h
          · cases h
          · split at h
            · obtain ⟨rfl, -⟩ := Prod.mk.inj (Except.ok.inj h)
              rfl
            · obtain ⟨⟨es, rest'⟩, hes, heq⟩ := exceptMap_ok h
              obtain ⟨rfl, -⟩ := Prod.mk.inj heq
              exact hasCycle_ofEntries (ihEntries hes)
        · exact hasCycle_readPlain? (required_eq_ok_iff.mp h)
      · intro room s rest xs h
        rw [Json.readItems] at h
        obtain ⟨⟨x, r⟩, hx, h⟩ := exceptBind_ok h
        simp only at h
        split at h
        · obtain ⟨⟨xs', r'⟩, hxs, h⟩ := exceptBind_ok h
          obtain ⟨rfl, -⟩ := Prod.mk.inj (Except.ok.inj h)
          simp [anyCycle, ihValue hx, ihItems hxs]
        · obtain ⟨rfl, -⟩ := Prod.mk.inj (Except.ok.inj h)
          simp [anyCycle, ihValue hx]
        · cases h
      · intro room s rest es h
        rw [Json.readEntries.eq_def] at h
        simp only at h
        split at h
        · obtain ⟨⟨k, r⟩, -, h⟩ := exceptBind_ok h
          simp only at h
          split at h
          · obtain ⟨⟨v, r'⟩, hv, h⟩ := exceptBind_ok h
            simp only at h
            split at h
            · obtain ⟨⟨es', r''⟩, hes, h⟩ := exceptBind_ok h
              obtain ⟨rfl, -⟩ := Prod.mk.inj (Except.ok.inj h)
              simp [anyCycleEntry, hasCycle, ihValue hv, ihEntries hes]
            · obtain ⟨rfl, -⟩ := Prod.mk.inj (Except.ok.inj h)
              simp [anyCycleEntry, hasCycle, ihValue hv]
            · cases h
          · cases h
        · cases h

theorem hasCycle_readJson
    {room : Nat} {text : String} {v : Value}
    (h : readJson room text = .ok v) :
    v.hasCycle = false := by
  rw [readJson] at h
  obtain ⟨⟨v', rest⟩, hread, h⟩ := exceptBind_ok h
  simp only at h
  split at h
  · obtain rfl := Except.ok.inj h
    exact (hasCycle_read _).1 hread
  · cases h

end Json

end Value

namespace Environment

open Value (anyCycleEntry anyCycleEntry_assign hasCycle_of_lookup?)

section Sections

variable {room : String →
  Nat} {group : String} {environment : List (String × String)} {v : Value}

theorem anyCycleEntry_put
    {last : String}
    (hv : v.hasCycle = false)
    (keys : List String) :
    ∀ es : List (Value × Value), anyCycleEntry es = false →
      anyCycleEntry (put keys last v es) = false := by
  induction keys with
  | nil =>
      intro es hes
      exact anyCycleEntry_assign hes rfl hv
  | cons k ks ih =>
      intro es hes
      simp only [put]
      split
      · refine anyCycleEntry_assign hes rfl ?_
        rw [Value.hasCycle]
        exact ih [] rfl
      · rename_i inner hinner
        have hold := hasCycle_of_lookup? hes hinner
        rw [Value.hasCycle] at hold
        refine anyCycleEntry_assign hes rfl ?_
        rw [Value.hasCycle]
        exact ih inner hold
      · exact hes

theorem hasCycle_readVariable
    {name text : String}
    (h : readVariable room group name text = .ok v) :
    v.hasCycle = false := by
  rw [readVariable] at h
  cases hread : Value.readJson (room name) text with
  | ok v' =>
      rw [hread] at h
      obtain rfl := Except.ok.inj h
      exact Value.hasCycle_readJson hread
  | error f =>
      rw [hread] at h
      cases h

theorem hasCycle_settingValue
    {keys : List String} {last name text : String}
    (h : settingValue room group keys last name text = .ok v) :
    v.hasCycle = false := by
  rw [settingValue] at h
  split at h
  · exact hasCycle_readVariable h
  · obtain rfl := Except.ok.inj h
    rfl

theorem anyCycleEntry_settingsOf
    {named : List (String × String)} {es : List (Value × Value)}
    (h : settingsOf room group named = .ok es) :
    anyCycleEntry es = false := by
  induction named using List.reverseRecOn generalizing es with
  | nil =>
      obtain rfl := Except.ok.inj h
      rfl
  | append_singleton named w ih =>
      rw [settingsOf, List.foldlM_append] at h
      obtain ⟨acc, hacc, h⟩ := exceptBind_ok h
      have hnamed := ih hacc
      rw [List.foldlM_cons] at h
      obtain ⟨es', hput, h⟩ := exceptBind_ok h
      obtain rfl := Except.ok.inj h
      simp only at hput
      split at hput
      · obtain ⟨x, hx, hput⟩ := exceptBind_ok hput
        obtain rfl := Except.ok.inj hput
        exact anyCycleEntry_put (hasCycle_settingValue hx) _ acc hnamed
      · obtain rfl := Except.ok.inj hput
        exact hnamed

theorem hasCycle_respell
    {es : List (Value × Value)}
    (names : List String)
    (hes : anyCycleEntry es = false) :
    (respell names es).hasCycle = false := by
  refine Value.hasCycle_ofEntries ?_
  induction es with
  | nil =>
      rfl
  | cons e rest ih =>
      obtain ⟨k, v⟩ := e
      simp only [anyCycleEntry, Bool.or_eq_false_iff] at hes
      rw [List.map_cons]
      cases k with
      | text s =>
          simp only [anyCycleEntry, Bool.or_eq_false_iff]
          refine ⟨⟨?_, hes.1.2⟩, ih hes.2⟩
          cases names.find? fun n => n = Text.lower s <;> rfl
      | _ =>
          simp only [anyCycleEntry, Bool.or_eq_false_iff]
          exact ⟨hes.1, ih hes.2⟩

/-- What variables give to a section does not contain itself. -/
theorem hasCycle_sectionValue?
    {names : List String}
    (h : sectionValue? room group names environment = .ok (some v)) :
    v.hasCycle = false := by
  rw [sectionValue?] at h
  split at h
  · obtain ⟨es, hes, h⟩ := exceptBind_ok h
    have hv := Except.ok.inj h
    split at hv
    · cases hv
    · obtain rfl := Option.some.inj hv
      exact hasCycle_respell names (anyCycleEntry_settingsOf hes)
  · obtain ⟨given, hgiven, h⟩ := exceptBind_ok h
    have hacyclic := hasCycle_readVariable hgiven
    split at h
    · cases h
    · rename_i entries
      obtain ⟨es, hes, h⟩ := exceptBind_ok h
      have hmerged : ((Value.map entries).merge (.map es)).hasCycle = false := by
        refine Value.hasCycle_overlay _ ?_ _ ?_
        · rintro o ⟨⟩
          exact hacyclic
        · rw [Value.hasCycle]
          exact anyCycleEntry_settingsOf hes
      split at h
      · rename_i merged heq
        obtain rfl := Option.some.inj (Except.ok.inj h)
        rw [heq, Value.hasCycle] at hmerged
        exact hasCycle_respell names hmerged
      · obtain rfl := Option.some.inj (Except.ok.inj h)
        exact hmerged
    · obtain rfl := Option.some.inj (Except.ok.inj h)
      exact hacyclic

/-- Variables give the value of each section under its name, as far as there is one. -/
theorem sectionsOfVariables_eq
    (room : String → Nat) (environment : List (String × String)) :
    sectionsOfVariables room environment = (do
      let logging ← sectionValue? room "logging" ["level", "outputs"]
        (normalize environment)
      let linting ← sectionValue? room "linting"
        ["path", "arguments", "run_at_file_location", "use_wsl", "timeout_sec"]
        (normalize environment)
      pure (.map ((logging.map fun v => (Value.text "logging", v)).toList ++
        (linting.map fun v => (Value.text "linting", v)).toList))) := by
  rw [sectionsOfVariables]
  simp only [sections, List.filterMapM_cons, List.filterMapM_nil]
  cases sectionValue? room "logging" ["level", "outputs"] (normalize environment) with
  | error c =>
      rfl
  | ok logging =>
      cases sectionValue? room "linting" ["path", "arguments", "run_at_file_location",
        "use_wsl", "timeout_sec"]
          (normalize environment) with
      | error c =>
          cases logging <;> rfl
      | ok linting =>
          cases logging <;> cases linting <;> rfl

/-- Variables give their sections as a map with textual keys, in which nothing contains
itself. -/
theorem sectionsOfVariables_eq_map
    (h : sectionsOfVariables room environment = .ok v) :
    ∃ es : List (Value × Value), v = .map es ∧ anyCycleEntry es = false ∧ ∀ e ∈ es,
      ∃ s : String, e.1 = .text s := by
  rw [sectionsOfVariables_eq] at h
  obtain ⟨logging, hlogging, h⟩ := exceptBind_ok h
  obtain ⟨linting, hlinting, h⟩ := exceptBind_ok h
  refine ⟨_, (Except.ok.inj h).symm, ?_, ?_⟩
  · cases logging with
    | none =>
        cases linting with
        | none =>
            rfl
        | some n =>
            simp [anyCycleEntry, Value.hasCycle, hasCycle_sectionValue? hlinting]
    | some l =>
        cases linting with
        | none =>
            simp [anyCycleEntry, Value.hasCycle, hasCycle_sectionValue? hlogging]
        | some n =>
            simp [anyCycleEntry, Value.hasCycle, hasCycle_sectionValue? hlogging,
              hasCycle_sectionValue? hlinting]
  · intro e he
    rcases List.mem_append.mp he with he | he
    · obtain ⟨l, -, rfl⟩ := Option.map_eq_some_iff.mp (Option.mem_toList.mp he)
      exact ⟨_, rfl⟩
    · obtain ⟨n, -, rfl⟩ := Option.map_eq_some_iff.mp (Option.mem_toList.mp he)
      exact ⟨_, rfl⟩

/-- The sections of variables can be merged into any map. -/
theorem layer_sectionsOfVariables
    {bs : List (Value × Value)}
    (h : sectionsOfVariables room environment = .ok v) :
    ∃ sources : Value, Settings.layer (.map bs) v = .ok sources := by
  obtain ⟨es, rfl, hacyclic, -⟩ := sectionsOfVariables_eq_map h
  obtain ⟨sources, hsources⟩ :=
    @Value.merge?_map_of_acyclic (.map es) bs (by rwa [Value.hasCycle])
  exact ⟨sources, by rw [Settings.layer, hsources]⟩

end Sections

end Environment

end HdlLint
