import HdlLint.Proofs.Settings.Variables
import HdlLint.Proofs.Settings.VariablesAcyclic
import HdlLint.Proofs.Value.MergedMaps
import HdlLint.Proofs.Yaml.MappingKeys

/-!
# Settings in merged sources

A source of settings is a map of sections, each of which is a map of settings.  Sources
are laid over each other, and each setting goes its own way in this: what it holds in the
end depends on nothing but what the sources give to just this setting.  The last source
that gives something to it wins, save that a map over a map is merged with it.

* `overrides_merge?`: what one source does to a setting of the sources below it.
* `Prevails.eq_winning_or_isMap`: what the sources leave of a setting is the winning
  value, or a map if this one is a map.
-/

namespace HdlLint
namespace Settings

open Value (IsMap Merged EntriesMerged textKeys)

/-- The value that a source gives to a setting. -/
def setting? (source : Value) (group name : String) : Option Value :=
  (source.field? group).bind fun v => v.field? name

/-- A source that holds nothing but sections, each of which is a map. -/
structure HoldsSections (source : Value) : Prop where
  names : ∃ entries : List (Value × Value), source = .map entries ∧
    ∀ e ∈ entries, ∃ group ∈ Environment.sections.map Prod.fst, e.1 = .text group
  sections : ∀ (group : String) (v : Value), source.field? group = some v → v.IsMap

/-- A source in which no name of a section or of a setting stands twice. -/
structure KeysOnce (source : Value) : Prop where
  groups : ∀ entries : List (Value × Value), source = .map entries →
    (textKeys entries).Nodup
  settings : ∀ (group : String) (v : Value) (entries : List (Value × Value)),
    source.field? group = some v → v.unfold = .map entries → (textKeys entries).Nodup

/-- What a setting holds after one more source has been laid over the others: what it
held, or the value of the source, or the deep merge of both if both are maps. -/
inductive Overrides : Option Value → Option Value → Option Value → Prop
  | kept
      (old : Option Value) :
      Overrides old none old
  | set
      (v : Value) :
      Overrides none (some v) (some v)
  | replaced
      {old v : Value}
      (h : ¬ (old.IsMap ∧ v.IsMap)) :
      Overrides (some old) (some v) (some v)
  | merged
      {old v r : Value}
      (hold : old.IsMap)
      (hv : v.IsMap)
      (hr : Merged old v r) :
      Overrides (some old) (some v) (some r)

/-- What a setting holds in the end, given what each source gives to it, the highest
source first: the sources are laid over each other one by one, beginning with the
lowest. -/
inductive Prevails : List (Option Value) → Option Value → Prop
  | nothing :
      Prevails [] none
  | laid
      {layer below shown : Option Value} {layers : List (Option Value)}
      (hbelow : Prevails layers below)
      (h : Overrides below layer shown) :
      Prevails (layer :: layers) shown

/-- The value that wins for a setting, given what each source gives to it: that of the
highest source which gives one. -/
def winning (layers : List (Option Value)) : Option Value :=
  layers.findSome? id

section Settings

variable {base upper r : Value} {bs es rs : List (Value × Value)}

theorem field?_of_unfold
    {v : Value}
    (h : v.unfold = .map es)
    (name : String) :
    v.field? name = Value.lookup? (.text name) es := by
  rw [Value.field?, h]

theorem Overrides.of_none
    (v : Option Value) :
    Overrides none v v := by
  cases v with
  | none =>
      exact .kept none
  | some v =>
      exact .set v

/-- Where one section has been laid over another, each of its settings has. -/
theorem overrides_of_entries
    {combined : Value → Value → Value → Prop}
    (h : EntriesMerged combined bs es rs)
    (hkeys : (textKeys es).Nodup)
    (name : String)
    (hvalues : ∀ old v x : Value, Value.lookup? (.text name) bs = some old →
      Value.lookup? (.text name) es = some v →
      combined old v x → Overrides (some old) (some v) (some x)) :
    Overrides (Value.lookup? (.text name) bs) (Value.lookup? (.text name) es)
      (Value.lookup? (.text name) rs) := by
  cases hv : Value.lookup? (.text name) es with
  | none =>
      rw [h.lookup?_kept hv]
      exact .kept _
  | some v =>
      rcases h.lookup?_put (Value.heldOnce_text hkeys _) hv with
        ⟨hold, hr⟩ | ⟨old, x, hold, hx, hr⟩
      · rw [hold, hr]
        exact .set v
      · rw [hold, hr]
        exact hvalues old v x hold hv hx

/-- Where one source has been laid over another section by section, each setting has. -/
theorem overrides_of_sections
    {combined : Value → Value → Value → Prop}
    (hbase : HoldsSections (.map bs))
    (hupper : HoldsSections (.map es))
    (hkeys : (textKeys es).Nodup)
    (h : EntriesMerged combined bs es rs)
    (hsections : ∀ (group : String) (x y z : Value),
      Value.lookup? (.text group) bs = some x →
      Value.lookup? (.text group) es = some y → combined x y z →
        z.IsMap ∧ ∀ name : String,
          Overrides (x.field? name) (y.field? name) (z.field? name)) :
    HoldsSections (.map rs) ∧
      ∀ group name : String,
        Overrides (setting? (.map bs) group name) (setting? (.map es) group name)
          (setting? (.map rs) group name) := by
  have hboth : ∀ group : String,
      (∀ z : Value, Value.lookup? (.text group) rs = some z → z.IsMap) ∧
      ∀ name : String,
        Overrides (setting? (.map bs) group name) (setting? (.map es) group name)
          (setting? (.map rs) group name) := by
    intro group
    have hset : ∀ (entries : List (Value × Value)) (name : String),
        setting? (.map entries) group name =
          (Value.lookup? (.text group) entries).bind fun v => v.field? name :=
      fun _ _ => rfl
    cases hy : Value.lookup? (.text group) es with
    | none =>
        simp only [hset, hy, h.lookup?_kept hy]
        exact ⟨hbase.sections group, fun _ => .kept _⟩
    | some y =>
        rcases h.lookup?_put (Value.heldOnce_text hkeys _) hy with
          ⟨hx, hz⟩ | ⟨x, z, hx, hcombined, hz⟩
        · simp only [hset, hx, hy, hz]
          refine ⟨?_, fun _ => Overrides.of_none _⟩
          rintro _ ⟨⟩
          exact hupper.sections group y hy
        · simp only [hset, hx, hy, hz]
          obtain ⟨hmap, hfields⟩ := hsections group x y z hx hy hcombined
          refine ⟨?_, hfields⟩
          rintro _ ⟨⟩
          exact hmap
  refine ⟨⟨⟨rs, rfl, ?_⟩, fun group => (hboth group).1⟩, fun group => (hboth group).2⟩
  -- A key that names no section would have to come from one of the two.
  have hsame : ∀ a b : Value, Value.sameKey a b = true →
      ((¬ ∃ group ∈ Environment.sections.map Prod.fst, a = .text group) ↔
        ¬ ∃ group ∈ Environment.sections.map Prod.fst, b = .text group) := by
    intro a b hab
    refine not_congr (exists_congr fun group => and_congr_right fun _ => ⟨?_, ?_⟩)
    · rintro rfl
      exact Value.sameKey_text_left.mp hab
    · rintro rfl
      exact Value.sameKey_text_right.mp hab
  intro e he
  by_contra hother
  rcases (h.exists_key_iff hsame).mp ⟨e, he, hother⟩ with ⟨e', he', hne⟩ | ⟨e', he', hne⟩
  · obtain ⟨entries, heq, hnames⟩ := hbase.names
    cases heq
    exact hne (hnames e' he')
  · obtain ⟨entries, heq, hnames⟩ := hupper.names
    cases heq
    exact hne (hnames e' he')

theorem overrides_of_merged
    {old v x : Value}
    (h : Merged old v x) :
    Overrides (some old) (some v) (some x) := by
  by_cases hmaps : old.IsMap ∧ v.IsMap
  · exact .merged hmaps.1 hmaps.2 h
  · rw [h.replaced hmaps]
    exact .replaced hmaps

/-- What one source does to the settings of the sources below it. -/
theorem overrides_merge?
    (hbase : HoldsSections base)
    (hupper : HoldsSections upper)
    (hkeys : KeysOnce upper)
    (h : base.merge? upper = some r) :
    HoldsSections r ∧
      ∀ group name : String,
        Overrides (setting? base group name) (setting? upper group name)
        (setting? r group name) := by
  obtain ⟨bs, rfl, -⟩ := hbase.names
  obtain ⟨es, rfl, -⟩ := hupper.names
  obtain ⟨rs, combined, rfl, hentries, hcombined⟩ :=
    (Value.merged_of_merge? h).entries rfl rfl
  refine overrides_of_sections hbase hupper (hkeys.groups es rfl) hentries ?_
  intro group x y z hx hy hz
  have hmerged := hcombined (.text group) x y z hx hy hz
  obtain ⟨xs, hxs⟩ := hbase.sections group x hx
  obtain ⟨ys, hys⟩ := hupper.sections group y hy
  obtain ⟨zs, fields, rfl, hfields, hvalues⟩ := hmerged.entries hxs hys
  refine ⟨⟨zs, rfl⟩, ?_⟩
  intro name
  rw [field?_of_unfold hxs, field?_of_unfold hys, field?_of_unfold (v := .map zs) rfl]
  refine overrides_of_entries hfields (hkeys.settings group y ys hy hys) name ?_
  intro old v w hold hv hw
  exact overrides_of_merged (hvalues (.text name) old v w hold hv hw)

end Settings

section Given

variable {source given : Value} {es gs : List (Value × Value)}
  {environment : List (String × String)}

/-- Values given directly for nothing but how the linter is run. -/
def GivesLinting (given : Value) : Prop :=
  given = .map [] ∨ ∃ es : List (Value × Value),
    given = .map [(.text "linting", .map es)] ∧ (textKeys es).Nodup

/-- What variables give to a setting. -/
def variableSetting? (environment : List (String × String)) (group name : String) :
    Option Value :=
  if group = "linting" then (Environment.leafText? environment name).map .text else none

theorem keysOnce_of_distinctKeys
    (h : source.DistinctKeys) :
    KeysOnce source := by
  constructor
  · rintro entries rfl
    rw [Value.DistinctKeys] at h
    exact h.1
  · intro group v entries hv hentries
    rw [Value.field?] at hv
    split at hv
    · rename_i fields hfields
      have hsource := h.unfold
      rw [hfields] at hsource
      have hvalue := (hsource.lookup? hv).unfold
      rw [hentries, Value.DistinctKeys] at hvalue
      exact hvalue.1
    · cases hv

theorem field?_linting
    (v : Value)
    (group : String) :
    (Value.map [(.text "linting", v)]).field? group = if group =
      "linting" then some v else none := by
  rw [field?_of_unfold (v := .map [(.text "linting", v)]) rfl, Value.lookup?]
  by_cases hgroup : group = "linting"
  · rw [if_pos hgroup, if_pos (Value.sameKey_text_right.mpr (by rw [hgroup]))]
  · rw [if_neg hgroup, if_neg, Value.lookup?]
    rw [Value.sameKey_text_right]
    exact fun heq => hgroup (Value.text.inj heq).symm

theorem setting?_linting
    (es : List (Value × Value))
    (group name : String) :
    setting? (.map [(.text "linting", .map es)]) group name =
      if group = "linting" then Value.lookup? (.text name) es else none := by
  rw [setting?, field?_linting]
  by_cases hgroup : group = "linting"
  · rw [if_pos hgroup, if_pos hgroup]
    rfl
  · rw [if_neg hgroup, if_neg hgroup, Option.bind_none]

theorem GivesLinting.holdsSections
    (h : GivesLinting source) :
    HoldsSections source := by
  rcases h with rfl | ⟨es, rfl, -⟩
  · exact ⟨⟨[], rfl, fun _ he => absurd he List.not_mem_nil⟩, by rintro group v ⟨⟩⟩
  · refine ⟨⟨_, rfl, ?_⟩, ?_⟩
    · intro e he
      obtain rfl := List.mem_singleton.mp he
      exact ⟨"linting", by decide, rfl⟩
    · intro group v hv
      rw [field?_linting] at hv
      split at hv <;> cases hv
      exact ⟨es, rfl⟩

theorem GivesLinting.keysOnce
    (h : GivesLinting source) :
    KeysOnce source := by
  rcases h with rfl | ⟨es, rfl, hes⟩
  · refine ⟨?_, by rintro group v entries ⟨⟩⟩
    rintro entries ⟨⟩
    exact List.nodup_nil
  · constructor
    · rintro entries ⟨⟩
      exact List.nodup_singleton _
    · intro group v entries hv hentries
      rw [field?_linting] at hv
      split at hv <;> cases hv
      cases hentries
      exact hes

theorem respellSections_of_givesLinting
    (h : GivesLinting given) :
    respellSections given = given := by
  have hname : sectionNamed? (.text "linting") = some "linting" := by decide +kernel
  rcases h with rfl | ⟨es, rfl, -⟩
  · rfl
  · simp [respellSections, Environment.sections, hname]

/-- Texts that variables give are replaced by what is given directly. -/
theorem lookup?_mergeEntries_texts
    (htexts : ∀ (name : String) (v : Value), Value.lookup? (.text name) es = some v →
      ∃ t : String, v = .text t)
    (hkeys : (textKeys gs).Nodup)
    (name : String) :
    Value.lookup? (.text name) (Value.mergeEntries es gs) =
      (Value.lookup? (.text name) gs).or (Value.lookup? (.text name) es) := by
  have hmerged := Value.entriesMerged_mergeEntries es gs
  cases hv : Value.lookup? (.text name) gs with
  | none =>
      rw [hmerged.lookup?_kept hv, Option.none_or]
  | some v =>
      rcases hmerged.lookup?_put (Value.heldOnce_text hkeys _) hv with
        ⟨-, hr⟩ | ⟨old, x, hold, hx, hr⟩
      · rw [hr, Option.some_or]
      · obtain ⟨t, rfl⟩ := htexts name old hold
        have hvalue : Value.overlay (some (.text t)) v = v := by cases v <;> rfl
        rw [hr, hx, hvalue, Option.some_or]

/-- What is given directly wins over variables, setting by setting. -/
theorem setting?_given_over_variables
    (room : String → Nat)
    (hvariables : Environment.LeafVariables environment)
    (hgiven : GivesLinting given) :
    ∃ sections : Value, Environment.sectionsOfVariables room environment = .ok sections ∧
      sections.hasCycle = false ∧
      GivesLinting (sections.merge (respellSections given)) ∧
      ∀ group name : String,
        setting? (sections.merge (respellSections given)) group name =
          (setting? given group name).or (variableSetting? environment group name) := by
  obtain ⟨es, hes, hkeys, -, hlookup⟩ :=
    Environment.sectionsOfVariables_of_leaf room hvariables
  refine ⟨_, hes, ?_, ?_⟩
  · obtain ⟨sections, heq, hacyclic, -⟩ := Environment.sectionsOfVariables_eq_map hes
    rw [heq, Value.hasCycle]
    exact hacyclic
  rw [respellSections_of_givesLinting hgiven]
  have htexts : ∀ (name : String) (v : Value), Value.lookup? (.text name) es = some v →
      ∃ t : String, v = .text t := by
    intro name v hv
    rw [hlookup, Option.map_eq_some_iff] at hv
    obtain ⟨t, -, rfl⟩ := hv
    exact ⟨t, rfl⟩
  have hvariable : ∀ group name : String,
      setting? (.map (if es.isEmpty then [] else [(.text "linting", .map es)])) group
        name =
        variableSetting? environment group name := by
    intro group name
    rw [variableSetting?, ← hlookup]
    cases es with
    | nil =>
        simp [setting?, Value.field?, Value.unfold, Value.lookup?]
    | cons e rest =>
        exact setting?_linting _ group name
  rcases hgiven with rfl | ⟨gs, rfl, hgs⟩
  · have hnothing : ∀ entries : List (Value × Value),
        (Value.map entries).merge (.map []) = .map entries :=
      fun _ => rfl
    rw [hnothing]
    refine ⟨?_, ?_⟩
    · cases es with
      | nil =>
          exact Or.inl rfl
      | cons e rest =>
          exact Or.inr ⟨_, rfl, hkeys⟩
    · intro group name
      rw [hvariable]
      rfl
  · obtain ⟨fs, hfs, hmerge, hfields⟩ :
        ∃ fs : List (Value × Value), (textKeys fs).Nodup ∧
          (Value.map (if es.isEmpty then [] else [(.text "linting", .map es)])).merge
              (.map [(.text "linting", .map gs)]) = .map [(.text "linting", .map fs)] ∧
          ∀ name : String, Value.lookup? (.text name) fs =
            (Value.lookup? (.text name) gs).or (Value.lookup? (.text name) es) := by
      cases es with
      | nil =>
          exact ⟨gs, hgs, rfl, fun _ => Option.or_none.symm⟩
      | cons e rest =>
          exact ⟨_, (Value.entriesMerged_mergeEntries (e :: rest) gs).nodup_textKeys
            hkeys, rfl,
            lookup?_mergeEntries_texts htexts hgs⟩
    rw [hmerge]
    refine ⟨Or.inr ⟨fs, rfl, hfs⟩, ?_⟩
    intro group name
    rw [setting?_linting, setting?_linting, hfields, hlookup, variableSetting?]
    by_cases hgroup : group = "linting"
    · rw [if_pos hgroup, if_pos hgroup, if_pos hgroup]
    · rw [if_neg hgroup, if_neg hgroup, if_neg hgroup]
      rfl

end Given

section Prevailing

variable {layers : List (Option Value)} {shown : Option Value}

/-- What the sources leave of a setting is the winning value, or a map if this one is a
map. -/
theorem Prevails.eq_winning_or_isMap
    (h : Prevails layers shown) :
    shown = winning layers ∨
      ∃ winner v : Value, winning layers = some winner ∧ winner.IsMap ∧
        shown = some v ∧ v.IsMap := by
  induction h with
  | nothing =>
      exact Or.inl rfl
  | laid hbelow h ih =>
      cases h with
      | kept old =>
          exact ih
      | set v =>
          exact Or.inl rfl
      | replaced hno =>
          exact Or.inl rfl
      | merged hold hv hr =>
          exact Or.inr ⟨_, _, rfl, hv, rfl, hr.isMap hold hv⟩

end Prevailing

end Settings
end HdlLint
