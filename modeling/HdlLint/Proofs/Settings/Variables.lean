import HdlLint.Proofs.Text.SmallForms
import HdlLint.Proofs.Value.TextKeys
import HdlLint.Settings.Environment

/-!
# Settings that variables name

A variable that names one setting of how the linter is run gives it a text.  The name
counts in any case, and of several variables with one name the last one counts.

* `lookup_normalize`: which variable counts.
* `settingsOf_leaf`: the settings that variables name.
* `respell_eq`: names in lower case are spelled as they are known already.
* `sectionsOfVariables_of_leaf`: the sections that such variables give.
-/

namespace HdlLint
namespace Environment

open Value (textKeys)

/-- What the names of variables begin with that name a setting of how the linter is
run. -/
def lintingStart : String := "verilint__linting__"

/-- Every variable that begins like those of the program names one setting of how the
linter is run. -/
def LeafVariables (environment : List (String × String)) : Prop :=
  ∀ v ∈ environment, start.toList <+: (Text.lower v.1).toList →
    ∃ name : List Char, (Text.lower v.1).toList = lintingStart.toList ++ name ∧
      ¬ separator <:+: name

/-- The text of a variable, with the name in lower case: that of the last one with this
name. -/
def lastText? (environment : List (String × String)) (name : String) : Option String :=
  (environment.filter fun v => Text.lower v.1 = name).getLast?.map (·.2)

/-- The text that variables give to a setting of how the linter is run. -/
def leafText? (environment : List (String × String)) (name : String) : Option String :=
  lastText? environment (lintingStart ++ name)

section Normalizing

variable {environment : List (String × String)}

theorem normalize_concat
    (environment : List (String × String)) (v : String × String) :
    normalize (environment ++ [v]) =
      if ((normalize environment).lookup (Text.lower v.1)).isSome then
        (normalize environment).map fun w =>
          if w.1 = Text.lower v.1 then (Text.lower v.1, v.2) else w
      else normalize environment ++ [(Text.lower v.1, v.2)] := by
  rw [normalize, List.foldl_append]
  rfl

theorem lookup_map_replace
    {acc : List (String × String)} {name value m : String} :
    (acc.map fun w => if w.1 = name then (name, value) else w).lookup m =
      if m = name then (acc.lookup name).map fun _ => value else acc.lookup m := by
  induction acc with
  | nil =>
      simp
  | cons w rest ih =>
      obtain ⟨n, t⟩ := w
      by_cases hn : n = name
      · subst hn
        by_cases hm : m = n
        · simp [hm]
        · have hne : (m == n) = false := by simpa using hm
          simp only [List.map_cons, if_pos, List.lookup_cons, hne, ih, if_neg hm]
      · by_cases hm : m = name
        · subst hm
          have hne : (m == n) = false := by simpa using fun h => hn h.symm
          simp only [List.map_cons, if_neg hn, List.lookup_cons, hne, ih, if_pos]
        · simp only [List.map_cons, if_neg hn, List.lookup_cons, ih, if_neg hm]

/-- Of the variables with one name in lower case the last one counts. -/
theorem lookup_normalize
    (environment : List (String × String)) (m : String) :
    (normalize environment).lookup m = lastText? environment m := by
  induction environment using List.reverseRecOn with
  | nil =>
      rfl
  | append_singleton environment v ih =>
      have hlookup :
          (normalize (environment ++ [v])).lookup m =
            if m = Text.lower v.1 then some v.2
              else (normalize environment).lookup m := by
        rw [normalize_concat]
        split
        · rename_i hsome
          obtain ⟨t, ht⟩ := Option.isSome_iff_exists.mp hsome
          rw [lookup_map_replace, ht, Option.map_some]
        · rename_i hnone
          rw [List.lookup_append, List.lookup_cons, List.lookup_nil]
          by_cases hm : m = Text.lower v.1
          · rw [if_pos hm, hm, Option.not_isSome_iff_eq_none.mp hnone]
            simp
          · have hne : (m == Text.lower v.1) = false := by simpa using hm
            rw [if_neg hm, hne, Option.or_none]
      rw [hlookup, lastText?, List.filter_append]
      by_cases hm : m = Text.lower v.1
      · simp [hm]
      · have hother : Text.lower v.1 ≠ m := fun h => hm h.symm
        rw [if_neg hm, ih, lastText?]
        simp [hother]

/-- A variable whose name is there already takes its place, and any other one comes
last. -/
theorem names_normalize_concat
    (environment : List (String × String)) (v : String × String) :
    (normalize (environment ++ [v])).map Prod.fst =
      if Text.lower v.1 ∈ (normalize environment).map Prod.fst then
        (normalize environment).map Prod.fst
      else (normalize environment).map Prod.fst ++ [Text.lower v.1] := by
  have hsome :
      ((normalize environment).lookup (Text.lower v.1)).isSome ↔
        Text.lower v.1 ∈ (normalize environment).map Prod.fst := by
    rw [List.lookup_isSome_iff, List.mem_map]
    simp only [beq_iff_eq]
    exact ⟨fun ⟨w, hw, hname⟩ => ⟨w, hw, hname.symm⟩,
      fun ⟨w, hw, hname⟩ => ⟨w, hw, hname.symm⟩⟩
  rw [normalize_concat]
  by_cases hmem : Text.lower v.1 ∈ (normalize environment).map Prod.fst
  · rw [if_pos (hsome.mpr hmem), if_pos hmem, List.map_map]
    refine List.map_congr_left ?_
    intro w _
    simp only [Function.comp_apply]
    split
    · rename_i hname
      exact hname.symm
    · rfl
  · rw [if_neg fun h => hmem (hsome.mp h), if_neg hmem,
      List.map_append, List.map_singleton]

theorem exists_of_mem_normalize
    {name : String}
    (h : name ∈ (normalize environment).map Prod.fst) :
    ∃ v ∈ environment, name = Text.lower v.1 := by
  induction environment using List.reverseRecOn with
  | nil =>
      cases h
  | append_singleton environment v ih =>
      have hold : name ∈ (normalize environment).map Prod.fst → ∃ w ∈ environment ++ [v],
          name = Text.lower w.1 := by
        intro hmem
        obtain ⟨w, hw, hname⟩ := ih hmem
        exact ⟨w, List.mem_append_left _ hw, hname⟩
      rw [names_normalize_concat] at h
      split at h
      · exact hold h
      · rcases List.mem_append.mp h with hmem | hnew
        · exact hold hmem
        · exact ⟨v, by simp, List.mem_singleton.mp hnew⟩

theorem nodup_normalize
    (environment : List (String × String)) :
    ((normalize environment).map Prod.fst).Nodup := by
  induction environment using List.reverseRecOn with
  | nil =>
      exact List.nodup_nil
  | append_singleton environment v ih =>
      rw [names_normalize_concat]
      split
      · exact ih
      · rename_i hnew
        refine List.nodup_append.mpr ⟨ih, List.nodup_singleton _, ?_⟩
        intro a ha b hb hab
        rw [hab, List.mem_singleton.mp hb] at ha
        exact hnew ha

end Normalizing

section Leaves

/-- A name without a separator is one part. -/
theorem nameParts_eq_singleton
    {name : List Char}
    (h : ¬ separator <:+: name) :
    nameParts name = [name] := by
  induction name with
  | nil =>
      rfl
  | cons c rest ih =>
      have hrest := ih fun hpart => h (hpart.trans (List.suffix_cons c rest).isInfix)
      unfold nameParts
      split
      · rename_i heq
        cases heq
      · rename_i r heq
        exact absurd ⟨[], r, heq.symm⟩ h
      · rename_i c' r' _ heq
        obtain ⟨rfl, rfl⟩ := List.cons.inj heq
        rw [hrest]

/-- The entries that variables put into a section, each under the rest of its name. -/
structure LeafEntries (named : List (String × String)) (es : List (Value × Value)) :
    Prop where
  keys : (textKeys es).Nodup
  lookup : ∀ name : String,
    Value.lookup? (.text name) es = (named.lookup (lintingStart ++ name)).map .text
  spelled : ∀ e ∈ es, ∃ name t : String,
    e = (.text name, .text t) ∧ lintingStart ++ name ∈ named.map Prod.fst

/-- A section into which no variable puts anything stays empty. -/
theorem settingsOf_eq_nil
    {room : String → Nat} {group : String} {named : List (String × String)}
    (h : ∀ v ∈ named, ¬ ((start ++ group).toList ++ separator) <+: v.1.toList) :
    settingsOf room group named = .ok [] := by
  induction named with
  | nil =>
      rfl
  | cons v rest ih =>
      rw [List.forall_mem_cons] at h
      have hrest := ih h.2
      rw [settingsOf] at hrest
      simp only [settingsOf, List.foldlM_cons, List.isPrefixOf_iff_prefix,
        if_neg h.1] at hrest ⊢
      exact hrest

theorem settingValue_linting
    (room : String → Nat) (keys : List String) (last name text : String) :
    settingValue room "linting" keys last name text = .ok (.text text) := by
  rw [settingValue, if_neg]
  simp [structuredSetting]

/-- One more variable puts its text under the rest of its name. -/
theorem settingsOf_concat
    {room : String → Nat} {named : List (String × String)}
    {v : String × String} {name : String}
    {es : List (Value × Value)}
    (h : settingsOf room "linting" named = .ok es)
    (hname : v.1 = lintingStart ++ name)
    (hleaf : ¬ separator <:+: name.toList) :
    settingsOf room "linting" (named ++ [v]) =
      .ok (Value.assign (.text name) (.text v.2) es) := by
  have hopening : (start ++ "linting").toList ++ separator = lintingStart.toList := by
    decide
  have hparts : v.1.toList = lintingStart.toList ++ name.toList := by
    rw [hname, String.toList_append]
  rw [settingsOf, hopening] at h
  rw [settingsOf, hopening, List.foldlM_append, h]
  simp only [bind, Except.bind, List.foldlM_cons, List.foldlM_nil, hparts,
    List.isPrefixOf_iff_prefix, List.prefix_append, if_true, List.drop_left,
      nameParts_eq_singleton hleaf,
    List.map_singleton, List.dropLast_singleton,
      settingValue_linting, String.ofList_toList]
  rfl

/-- A variable for something else changes nothing. -/
theorem settingsOf_concat_other
    {room : String → Nat} {named : List (String × String)} {v : String × String}
    {es : List (Value × Value)}
    (h : settingsOf room "linting" named = .ok es)
    (hother : ¬ lintingStart.toList <+: v.1.toList) :
    settingsOf room "linting" (named ++ [v]) = .ok es := by
  have hopening : (start ++ "linting").toList ++ separator = lintingStart.toList := by
    decide
  rw [settingsOf, hopening] at h
  rw [settingsOf, hopening, List.foldlM_append, h]
  simp only [bind, Except.bind, List.foldlM_cons, List.foldlM_nil,
    List.isPrefixOf_iff_prefix, if_neg hother]
  rfl

/-- The settings that variables name. -/
theorem settingsOf_leaf
    {room : String → Nat} {named : List (String × String)}
    (hnames : (named.map Prod.fst).Nodup)
    (hleaf : ∀ v ∈ named, ∀ name : List Char,
      v.1.toList = lintingStart.toList ++ name → ¬ separator <:+: name) :
    ∃ es : List (Value × Value), settingsOf room "linting" named = .ok es ∧
      LeafEntries named es := by
  induction named using List.reverseRecOn with
  | nil =>
      exact ⟨[], rfl, List.nodup_nil, fun _ => rfl,
        fun _ he => absurd he List.not_mem_nil⟩
  | append_singleton named v ih =>
      rw [List.map_append, List.map_singleton, List.nodup_append] at hnames
      obtain ⟨hnames, -, hfresh⟩ := hnames
      have hnone : named.lookup v.1 = none := by
        rw [List.lookup_eq_none_iff]
        intro w hw
        simpa using (hfresh w.1 (List.mem_map_of_mem hw) v.1 (by simp)).symm
      obtain ⟨es, hes, hentries⟩ :=
        ih hnames fun w hw => hleaf w (List.mem_append_left _ hw)
      have hspelled : ∀ e ∈ es, ∃ name t : String, e = (.text name, .text t) ∧
          lintingStart ++ name ∈ (named ++ [v]).map Prod.fst := by
        intro e he
        obtain ⟨name, t, heq, hmem⟩ := hentries.spelled e he
        exact ⟨name, t, heq, by rw [List.map_append]; exact List.mem_append_left _ hmem⟩
      by_cases hprefix : lintingStart.toList <+: v.1.toList
      · obtain ⟨rest, hrest⟩ := hprefix
        have hname : v.1 = lintingStart ++ String.ofList rest := by
          rw [← String.toList_inj, String.toList_append, String.toList_ofList, hrest]
        have hsep := hleaf v (by simp) rest hrest.symm
        refine ⟨_, settingsOf_concat hes hname (by rwa [String.toList_ofList]), ?_, ?_,
          ?_⟩
        · exact Value.nodup_textKeys_assign hentries.keys _ _
        · intro name
          rw [Value.lookup?_assign, List.lookup_append, hentries.lookup]
          by_cases hsame : name = String.ofList rest
          · subst hsame
            rw [if_pos (Value.sameKey_text_right.mpr rfl), ← hname, hnone,
              List.lookup_cons, beq_self_eq_true]
            rfl
          · have hkey : ¬ Value.sameKey (.text (String.ofList rest)) (.text name) =
                true := by
              rw [Value.sameKey_text_right]
              exact fun heq => hsame (Value.text.inj heq).symm
            have hne : (lintingStart ++ name == v.1) = false := by
              rw [hname]
              simpa using hsame
            rw [if_neg hkey, List.lookup_cons, hne, List.lookup_nil, Option.or_none]
        · rintro ⟨k, x⟩ he
          rcases Value.mem_assign he with hold | ⟨hvalue, hkey | ⟨y, hy, -⟩⟩
          · exact hspelled (k, x) hold
          · exact ⟨String.ofList rest, v.2, Prod.ext hkey hvalue, by simp [← hname]⟩
          · obtain ⟨name, t, heq, hmem⟩ := hspelled (k, y) hy
            exact ⟨name, v.2, Prod.ext (Prod.ext_iff.mp heq).1 hvalue, hmem⟩
      · refine ⟨es, settingsOf_concat_other hes hprefix, hentries.keys, ?_, hspelled⟩
        intro name
        have hne : (lintingStart ++ name == v.1) = false := by
          simp only [beq_eq_false_iff_ne]
          intro heq
          exact hprefix ⟨name.toList, by rw [← heq, String.toList_append]⟩
        rw [List.lookup_append, List.lookup_cons, hne, List.lookup_nil,
          Option.or_none, hentries.lookup]

end Leaves

section Sections

/-- Names that are spelled in lower case already stay as they are. -/
theorem respell_eq
    {names : List String} {es : List (Value × Value)}
    (hnames : ∀ n ∈ names, ∀ d ∈ n.toList, d.toNat < 0x80 ∧ d ≠ 'k')
    (hkeys : (textKeys es).Nodup)
    (hspelled : ∀ e ∈ es, ∃ s : String, e.1 = .text s ∧
      ∀ c ∈ s.toList, c.isUpper = false) :
    respell names es = .map es := by
  rw [respell]
  refine (congrArg Value.ofEntries ?_).trans (Value.ofEntries_of_nodup hkeys ?_)
  · conv_rhs => rw [← List.map_id es]
    refine List.map_congr_left ?_
    rintro ⟨k, v⟩ he
    obtain ⟨s, rfl, hs⟩ : ∃ s : String, k = .text s ∧ ∀ c ∈ s.toList,
      c.isUpper = false := hspelled _ he
    cases hfind : names.find? fun n => n = Text.lower s with
    | none =>
        simp only [hfind, Option.elim_none, id_eq]
    | some n =>
        have hn : n = Text.lower s := by simpa using List.find?_some hfind
        have hlower : Text.lowerChars false s.toList = n.toList := by
          rw [hn, Text.lower, String.toList_ofList]
        have hs' := Text.eq_of_lowerChars_eq hs
            (hnames n (List.mem_of_find?_eq_some hfind)) hlower
        obtain rfl := String.toList_inj.mp hs'
        simp only [hfind, Option.elim_some, id_eq]
  · intro e he
    obtain ⟨s, hs, -⟩ := hspelled e he
    exact ⟨s, hs⟩

variable {environment : List (String × String)}

theorem leaf_of_mem_normalize
    (h : LeafVariables environment)
    {v : String × String}
    (hv : v ∈ normalize environment)
    (hstart : start.toList <+: v.1.toList) :
    ∃ name : List Char, v.1.toList = lintingStart.toList ++ name ∧
      ¬ separator <:+: name := by
  obtain ⟨w, hw, hname⟩ := exists_of_mem_normalize (List.mem_map_of_mem hv)
  rw [hname] at hstart ⊢
  exact h w hw hstart

/-- What names the log does not name how the linter is run. -/
theorem logging_ne_linting
    {rest name : List Char} :
    (start ++ "logging").toList ++ rest ≠ lintingStart.toList ++ name := by
  intro heq
  have hletters := congrArg (List.take 12) heq
  rw [List.take_append_of_le_length (by decide),
    List.take_append_of_le_length (by decide)] at hletters
  exact absurd hletters (by decide)

/-- Variables that each name one setting say nothing of a whole section, nor of another
one. -/
theorem lookup_section
    (h : LeafVariables environment)
    {group : String}
    (hgroup : group = "linting" ∨ group = "logging") :
    (normalize environment).lookup (start ++ group) = none := by
  rw [List.lookup_eq_none_iff]
  intro v hv
  simp only [bne_iff_ne, ne_eq]
  intro heq
  obtain ⟨name, hname, -⟩ :=
    leaf_of_mem_normalize h hv ⟨group.toList, by rw [← heq, String.toList_append]⟩
  rw [← heq] at hname
  rcases hgroup with rfl | rfl
  · have hlength := congrArg List.length hname
    rw [List.length_append] at hlength
    have hlong : (start ++ "linting").toList.length < lintingStart.toList.length := by
      decide
    omega
  · exact @logging_ne_linting [] _ (by rwa [List.append_nil])

theorem not_logging
    (h : LeafVariables environment) :
    ∀ v ∈ normalize environment,
      ¬ ((start ++ "logging").toList ++ separator) <+: v.1.toList := by
  rintro v hv ⟨rest, hrest⟩
  rw [String.toList_append, List.append_assoc, List.append_assoc] at hrest
  obtain ⟨name, hname, -⟩ := leaf_of_mem_normalize h hv ⟨_, hrest⟩
  rw [← hrest, ← List.append_assoc, ← String.toList_append] at hname
  exact logging_ne_linting hname

/-- Variables that each name a setting of how the linter is run make up one section, in
which the last variable with a name counts. -/
theorem sectionsOfVariables_of_leaf
    (room : String → Nat)
    (h : LeafVariables environment) :
    ∃ es : List (Value × Value),
      sectionsOfVariables room environment =
        .ok (.map (if es.isEmpty then [] else [(.text "linting", .map es)])) ∧
      (textKeys es).Nodup ∧
      (∀ e ∈ es, ∃ name t : String, e = (.text name, .text t)) ∧
      ∀ name : String, Value.lookup? (.text name) es =
        (leafText? environment name).map .text := by
  obtain ⟨es, hes, hentries⟩ :=
    @settingsOf_leaf room _ (nodup_normalize environment) fun v hv name hname => by
    obtain ⟨name', hname', hsep⟩ :=
      leaf_of_mem_normalize h hv ⟨"linting__".toList ++ name, by rw [hname]; rfl⟩
    rw [hname', List.append_cancel_left_eq] at hname
    rwa [← hname]
  have hrespell :
      respell ["path", "arguments", "run_at_file_location", "use_wsl", "timeout_sec"] es =
        .map es := by
    refine respell_eq (by simp) hentries.keys ?_
    intro e he
    obtain ⟨name, t, rfl, hmem⟩ := hentries.spelled e he
    refine ⟨name, rfl, ?_⟩
    intro c hc
    obtain ⟨v, -, hlower⟩ := exists_of_mem_normalize hmem
    refine @Text.not_isUpper_of_mem_lowerChars false v.1.toList c ?_
    have hchars : (lintingStart ++ name).toList = Text.lowerChars false v.1.toList := by
      rw [hlower, Text.lower, String.toList_ofList]
    rw [← hchars, String.toList_append]
    exact List.mem_append_right _ hc
  have hlinting :
      sectionValue? room "linting" ["path", "arguments", "run_at_file_location",
        "use_wsl", "timeout_sec"]
        (normalize environment) = .ok (if es.isEmpty then none else some (.map es)) := by
    rw [sectionValue?, lookup_section h (Or.inl rfl)]
    simp only [hes, hrespell, bind, Except.bind]
    rfl
  have hlogging :
      sectionValue? room "logging" ["level", "outputs"] (normalize environment) =
      .ok none := by
    rw [sectionValue?, lookup_section h (Or.inr rfl)]
    simp only [settingsOf_eq_nil (not_logging h)]
    rfl
  refine ⟨es, ?_, hentries.keys, ?_, ?_⟩
  · rw [sectionsOfVariables]
    simp only [sections, List.filterMapM_cons, List.filterMapM_nil, hlogging, hlinting]
    cases es with
    | nil =>
        rfl
    | cons e rest =>
        rfl
  · intro e he
    obtain ⟨name, t, heq, -⟩ := hentries.spelled e he
    exact ⟨name, t, heq⟩
  · intro name
    rw [hentries.lookup, lookup_normalize]
    rfl

end Sections

end Environment
end HdlLint
