import HdlLint.Report.Table
import Mathlib.Tactic

/-!
# Texts and tables on the screen

Laying a text out makes up no styles, so words that can be looked up in a text can be
looked up in its lines.  A table is shown if all of its cells are, and a cell that is not
shown is a failure of the whole table.

* `styles_wrap`: the styles of the lines of a text are styles of the text.
* `printed_of_sound`: a text with sound styles is printed.
* `Table.render_of_showsCell` and `Table.render_of_error`: a table is shown cell by cell.
-/

namespace HdlLint
namespace Report

section Loops

variable {ε α β : Type}

theorem forM_eq_ok
    {f : α → Except ε PUnit} {l : List α}
    (h : ∀ x ∈ l, f x = .ok ⟨⟩) :
    l.forM f = .ok ⟨⟩ := by
  induction l with
  | nil =>
      rfl
  | cons x l ih =>
      change (f x >>= fun _ => l.forM f) = .ok ⟨⟩
      rw [h x List.mem_cons_self, ih fun y hy => h y (List.mem_cons_of_mem _ hy)]
      rfl

/-- A loop over a list succeeds if all of its steps do. -/
theorem mapM_eq_ok
    {f : α → Except ε β} {P : β → Prop} {l : List α}
    (h : ∀ x ∈ l, ∃ y : β, f x = .ok y ∧ P y) :
    ∃ ys : List β, l.mapM f = .ok ys ∧ ∀ y ∈ ys, P y := by
  induction l with
  | nil =>
      exact ⟨[], rfl, by simp⟩
  | cons x l ih =>
      obtain ⟨y, hy, hP⟩ := h x List.mem_cons_self
      obtain ⟨ys, hys, hPs⟩ := ih fun z hz => h z (List.mem_cons_of_mem _ hz)
      refine ⟨y :: ys, ?_, List.forall_mem_cons.mpr ⟨hP, hPs⟩⟩
      rw [List.mapM_cons, hy, hys]
      rfl

/-- What follows a loop is reached if all steps of the loop succeed. -/
theorem exists_mapM_bind_eq_ok
    {γ : Type} {f : α → Except ε β} {g : List β → Except ε γ} {l : List α}
    (hf : ∀ x ∈ l, ∃ y : β, f x = .ok y)
    (hg : ∀ ys : List β, ∃ z : γ, g ys = .ok z) :
    ∃ z : γ, (l.mapM f >>= g) = .ok z := by
  obtain ⟨ys, hys, -⟩ := mapM_eq_ok (P := fun _ => True) fun x hx =>
    (hf x hx).imp fun _ hy => ⟨hy, trivial⟩
  rw [hys]
  exact hg ys

/-- A step that fails is a failure of the whole loop. -/
theorem mapM_eq_error
    {f : α → Except ε β} {l : List α} {x : α}
    (hx : x ∈ l)
    (h : ∃ e : ε, f x = .error e) :
    ∃ e : ε, l.mapM f = .error e := by
  induction l with
  | nil =>
      cases hx
  | cons y l ih =>
      rw [List.mapM_cons]
      cases hy : f y with
      | error e =>
          exact ⟨e, rfl⟩
      | ok z =>
          obtain rfl | hx := List.mem_cons.mp hx
          · obtain ⟨e, he⟩ := h
            rw [he] at hy
            cases hy
          · obtain ⟨e, he⟩ := ih hx
            rw [he]
            exact ⟨e, rfl⟩

end Loops

/-- The styles of the spans of a text. -/
def StyledText.styles (t : StyledText) : List (Option String) :=
  t.spans.map Span.style

/-- The words of all styles of a text can be looked up. -/
def StyledText.Sound (t : StyledText) : Prop :=
  ∀ style ∈ t.styles, Markup.checkStyle ⟨0, 0, style⟩ = .ok ()

namespace StyledText

section Styles

variable {t : StyledText}

theorem styles_filterMap_subset
    {f : Span → Option Span}
    (h : ∀ s s' : Span, f s = some s' → s'.style = s.style) (chars : List Char) :
    styles ⟨chars, t.spans.filterMap f⟩ ⊆ t.styles := by
  intro style hstyle
  obtain ⟨s', hs', rfl⟩ := List.mem_map.mp hstyle
  obtain ⟨s, hs, hf⟩ := List.mem_filterMap.mp hs'
  exact List.mem_map.mpr ⟨s, hs, (h s s' hf).symm⟩

theorem styles_slice
    (t : StyledText) (first last : Nat) :
    (t.slice first last).styles ⊆ t.styles := by
  refine styles_filterMap_subset (fun s s' hs => ?_) _
  unfold Span.clip? at hs
  simp only at hs
  split at hs
  · cases hs
    rfl
  · cases hs

theorem style_of_cut?
    {last : Nat} {s s' : Span}
    (h : s.cut? last = some s') :
    s'.style = s.style := by
  unfold Span.cut? at h
  split at h
  · cases h
    rfl
  · cases h

theorem styles_takeFirst
    (t : StyledText) (n : Nat) :
    (t.takeFirst n).styles ⊆ t.styles :=
  styles_filterMap_subset (fun _ _ => style_of_cut?) _

theorem styles_withChars
    (t : StyledText) (s : List Char) :
    (t.withChars s).styles ⊆ t.styles := by
  unfold withChars
  split
  · exact styles_filterMap_subset (fun _ _ => style_of_cut?) _
  · exact List.Subset.refl _

theorem styles_divide
    (t : StyledText) (positions : List Nat) :
    ∀ l ∈ t.divide positions, l.styles ⊆ t.styles := by
  unfold divide
  split
  · simp
  · intro l hl
    obtain ⟨⟨first, last⟩, -, rfl⟩ := List.mem_map.mp hl
    exact styles_slice t first last

theorem styles_lines
    (t : StyledText) :
    ∀ l ∈ t.lines, l.styles ⊆ t.styles := by
  unfold lines
  split
  · simp
  · intro l hl
    obtain ⟨⟨first, last⟩, -, rfl⟩ := List.mem_map.mp hl
    exact styles_slice t first last

theorem styles_joined
    (ts : List StyledText) :
    (joined ts).styles = ts.flatMap styles := by
  induction ts with
  | nil =>
      rfl
  | cons t ts ih =>
      have hshift : Span.style ∘ Span.shift t.chars.length = Span.style := rfl
      rw [List.flatMap_cons, ← ih]
      simp only [joined, styles, List.map_append, List.map_map, hshift]

theorem styles_fillTab
    (cell : Nat) (t : StyledText) :
    (fillTab cell t).2.styles = t.styles := by
  unfold fillTab styles
  simp only [List.map_map]
  refine List.map_congr_left fun s _ => ?_
  simp only [Function.comp_apply]
  split <;> rfl

theorem styles_fillTabs
    (cell : Nat) (ts : List StyledText) :
    (fillTabs cell ts).flatMap styles ⊆ ts.flatMap styles := by
  induction ts generalizing cell with
  | nil =>
      exact List.Subset.refl _
  | cons t ts ih =>
      cases ts with
      | nil =>
          unfold fillTabs
          split
          · simp
          · exact List.Subset.refl _
      | cons u ts =>
          -- a piece that ends in a tab is filled up, and the next one begins at another
          -- cell
          rw [fillTabs, List.flatMap_cons, List.flatMap_cons, styles_fillTab]
          · exact List.append_subset.mpr ⟨List.subset_append_left _ _,
              List.subset_append_of_subset_right _ (ih _)⟩
          · simp

theorem styles_expandTabs
    (t : StyledText) :
    t.expandTabs.styles ⊆ t.styles := by
  unfold expandTabs
  split
  · exact List.Subset.refl _
  · rw [styles_joined]
    refine List.Subset.trans (styles_fillTabs 0 _) ?_
    intro style hstyle
    obtain ⟨l, hl, hmem⟩ := List.mem_flatMap.mp hstyle
    exact styles_divide t _ l hl hmem

theorem styles_withoutOverhang
    (width : Nat) (t : StyledText) :
    (t.withoutOverhang width).styles ⊆ t.styles := by
  unfold withoutOverhang
  simp only
  split
  · exact List.Subset.refl _
  · exact styles_takeFirst t _

theorem styles_fit
    (width : Nat) (overflow : Overflow) (t : StyledText) :
    (t.fit width overflow).styles ⊆ t.styles := by
  unfold fit
  cases overflow with
  | fold =>
      simp only
      split
      · exact List.Subset.refl _
      · exact styles_withChars t _
  | ellipsis =>
      simp only
      split
      · exact List.Subset.refl _
      · exact styles_withChars t _

/-- Laying a text out makes up no styles. -/
theorem styles_wrap
    (width : Nat) (overflow : Overflow) (t : StyledText) :
    ∀ l ∈ t.wrap width overflow, l.styles ⊆ t.styles := by
  intro l hl
  -- the stages of the layout: lines, tabs, pieces of the width, and each piece made to
  -- fit
  obtain ⟨line, hline, hl⟩ := List.mem_flatMap.mp hl
  obtain ⟨piece, hpiece, rfl⟩ := List.mem_map.mp hl
  have hpieces : piece.styles ⊆ t.styles :=
    List.Subset.trans (styles_divide _ _ piece hpiece)
      (List.Subset.trans (styles_expandTabs line) (styles_lines t line hline))
  exact List.Subset.trans (styles_fit _ _ _)
    (List.Subset.trans (styles_withoutOverhang _ _) hpieces)

/-- The lines of a text with sound styles are checked without a crash. -/
theorem Sound.checkStyles_wrap
    (h : t.Sound) (width : Nat) (overflow : Overflow) :
    Markup.checkStyles (t.wrap width overflow) = .ok () := by
  refine forM_eq_ok fun l hl => forM_eq_ok fun s hs => ?_
  exact h s.style (styles_wrap width overflow t l hl (List.mem_map_of_mem hs))

theorem sound_of_spans_nil
    (chars : List Char) :
    Sound ⟨chars, []⟩ := by
  rintro style hstyle
  cases hstyle

end Styles

end StyledText

/-- A text with sound styles is printed. -/
theorem printed_of_sound
    {s : String} {t : StyledText}
    (hrender : Markup.render s = .ok t)
    (h : t.Sound) (screen : Nat) :
    ∃ lines : List (List Char), printed screen s = .ok lines := by
  unfold printed
  rw [hrender]
  simp only [bind, Except.bind, h.checkStyles_wrap]
  exact ⟨_, rfl⟩

theorem printed_of_error
    {s : String} {c : Crash}
    (hrender : Markup.render s = .error c) (screen : Nat) :
    printed screen s = .error c := by
  unfold printed
  rw [hrender]
  rfl

namespace Column

theorem cellLines_of_sound
    {t : StyledText}
    (h : t.Sound) (c : Column) (width : Nat) :
    ∃ lines : List (List Char), c.cellLines width t = .ok lines := by
  unfold cellLines
  simp only [bind, Except.bind, h.checkStyles_wrap]
  exact ⟨_, rfl⟩

end Column

namespace Table

/-- The cell of a row in a column is shown. -/
def ShowsCell (row : List String) (i : Nat) : Prop :=
  ∃ text : StyledText, Markup.render (row.getD i "") = .ok text ∧ text.Sound

/-- All cells of a column are sound. -/
def SoundColumn (c : Column) : Prop :=
  ∀ text ∈ c.cells, text.Sound

section Cells

variable {t : Table}

theorem columns_of_showsCell
    (h : ∀ row ∈ t.header :: t.rows, ∀ i < t.header.length, ShowsCell row i) :
    ∃ columns : List Column, t.columns = .ok columns ∧ ∀ c ∈ columns, SoundColumn c := by
  refine mapM_eq_ok fun i hi => ?_
  obtain ⟨cells, hcells, hsound⟩ :=
    mapM_eq_ok (l := t.header :: t.rows) fun row hrow =>
      h row hrow i (List.mem_range.mp hi)
  refine ⟨⟨cells, (sides t.header.length i).1, (sides t.header.length i).2⟩, ?_, hsound⟩
  simp only [hcells]
  rfl

/-- A row of sound columns is shown: a column without a cell in it shows nothing. -/
theorem rowLines_of_soundColumns
    {columns : List (Column × Nat)}
    (h : ∀ c ∈ columns, SoundColumn c.1) (row : Nat) :
    ∃ lines : List (List Char), rowLines columns row = .ok lines := by
  have hcell : ∀ c ∈ columns, (c.1.cells.getD row ⟨[], []⟩).Sound := by
    intro c hc
    rw [List.getD_eq_getElem?_getD]
    cases hrow : c.1.cells[row]? with
    | none =>
        exact StyledText.sound_of_spans_nil []
    | some text =>
        exact h c hc text (List.mem_of_getElem? hrow)
  refine exists_mapM_bind_eq_ok ?_ fun cells => ⟨_, rfl⟩
  rintro ⟨c, width⟩ hc
  obtain ⟨lines, hlines⟩ := Column.cellLines_of_sound (hcell _ hc) c width
  exact ⟨(width, lines), by simp only [hlines]; rfl⟩

/-- A table is shown if all of its cells are. -/
theorem render_of_showsCell
    (h : ∀ row ∈ t.header :: t.rows, ∀ i < t.header.length, ShowsCell row i)
    (screen : Nat) :
    ∃ lines : List (List Char), t.render screen = .ok lines := by
  obtain ⟨columns, hcolumns, hsound⟩ := columns_of_showsCell h
  have hzip : ∀ c ∈ columns.zip (widths screen columns), SoundColumn c.1 := fun c hc =>
    hsound c.1 (List.of_mem_zip hc).1
  unfold render
  rw [hcolumns]
  exact exists_mapM_bind_eq_ok
    (fun row _ => rowLines_of_soundColumns hzip row) fun rows => ⟨_, rfl⟩

/-- A cell that is not shown is a failure of the whole table. -/
theorem render_of_error
    {row : List String} {i : Nat}
    (hrow : row ∈ t.header :: t.rows)
    (hi : i < t.header.length)
    (hcell : ∃ c : Crash, Markup.render (row.getD i "") = .error c) (screen : Nat) :
    ∃ c : Crash, t.render screen = .error c := by
  have hcolumns : ∃ c : Crash, t.columns = .error c := by
    refine mapM_eq_error (List.mem_range.mpr hi) ?_
    obtain ⟨c, hc⟩ := mapM_eq_error
      (f := fun row => Markup.render (row.getD i "")) hrow hcell
    refine ⟨c, ?_⟩
    simp only [hc]
    rfl
  obtain ⟨c, hc⟩ := hcolumns
  refine ⟨c, ?_⟩
  unfold render
  rw [hc]
  rfl

end Cells

end Table
end Report
end HdlLint
