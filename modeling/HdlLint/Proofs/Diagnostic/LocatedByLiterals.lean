import HdlLint.Diagnostic.Transcript
import HdlLint.Proofs.Text.IntegerLiteral

/-!
# Places that are given by literals

The line and the column of a diagnostic line are texts, and nothing is known of them
beforehand.  Both are read as integer literals that count from one, but a text that is no
such literal counts differently in the two places: without a line there is no diagnostic,
and without a column the diagnostic is at the beginning of its line.

* `LineFields.zeroBased?_eq_some_iff`: the numbers that are read.
* `LineFields.column_of_columnIs` and `LineFields.column_of_none`: the column.
* `LineFields.located_by_literals`: when there is a diagnostic, and where it is.
-/

namespace HdlLint
namespace LineFields

open Text

/-- The line is an integer literal that counts from one. -/
def LineIs (f : LineFields) (n : Int) : Prop :=
  SpellsInteger f.lineText n ∧ 1 ≤ n

/-- There is a column, and it is an integer literal that counts from one. -/
def ColumnIs (f : LineFields) (n : Int) : Prop :=
  ∃ text : String, f.columnText = some text ∧ SpellsInteger text n ∧ 1 ≤ n

section Places

variable {f : LineFields} {scope : PathScope} {n : Int}

theorem zeroBased?_eq_some_iff
    {text : String} {i : Int} :
    zeroBased? text = some i ↔ SpellsInteger text (i + 1) := by
  rw [zeroBased?, Option.map_eq_some_iff, ← integer?_eq_some_iff]
  constructor
  · rintro ⟨n, hn, rfl⟩
    rwa [Int.sub_add_cancel]
  · exact fun h => ⟨i + 1, h, Int.add_sub_cancel i 1⟩

theorem column_of_columnIs
    (h : f.ColumnIs n) :
    f.column = n - 1 := by
  obtain ⟨text, htext, hn, hpos⟩ := h
  have hread : f.columnText.bind zeroBased? = some (n - 1) := by
    rw [htext, Option.bind_some, zeroBased?_eq_some_iff, Int.sub_add_cancel]
    exact hn
  rw [column, hread]
  exact if_neg (by omega)

/-- Without a number that counts from one the column is the first. -/
theorem column_of_none
    (h : ¬ ∃ n : Int, f.ColumnIs n) :
    f.column = 0 := by
  unfold column
  split
  · rename_i i hread
    obtain ⟨text, htext, hi⟩ := Option.bind_eq_some_iff.mp hread
    have hneg : i < 0 := by
      by_contra hpos
      exact h ⟨i + 1, text, htext, zeroBased?_eq_some_iff.mp hi, by omega⟩
    exact if_pos hneg
  · rfl

/-- There is a diagnostic exactly where the line is located, and it is on that line. -/
theorem exists_diagnostic?_iff :
    (∃ d : Diagnostic, f.diagnostic? scope = some d ∧ d.line = n - 1) ↔ f.LineIs n := by
  unfold diagnostic? LineIs
  constructor
  · rintro ⟨d, hd, hline⟩
    split at hd
    · rename_i i hi
      split_ifs at hd with hneg
      obtain rfl := Option.some.inj hd
      obtain rfl : i + 1 = n := by
        dsimp only at hline
        omega
      exact ⟨zeroBased?_eq_some_iff.mp hi, by omega⟩
    · cases hd
  · rintro ⟨hn, hpos⟩
    have hread : zeroBased? f.lineText = some (n - 1) := by
      rwa [zeroBased?_eq_some_iff, Int.sub_add_cancel]
    rw [hread]
    dsimp only
    rw [if_neg (by omega)]
    exact ⟨_, rfl, rfl⟩

theorem column_of_diagnostic?
    {d : Diagnostic}
    (h : f.diagnostic? scope = some d) :
    d.column = f.column := by
  unfold diagnostic? at h
  split at h
  · split_ifs at h
    obtain rfl := Option.some.inj h
    rfl
  · cases h

/-- There is a diagnostic exactly if the line is an integer literal that counts from one.
It is on that line, and in the column that is given by such a literal or, without one, at
the beginning of the line.  A fault that is found in reading the two numbers goes no
further: one in the line leaves no diagnostic, and one in the column leaves the first
column. -/
theorem located_by_literals
    (f : LineFields) (scope : PathScope) :
    ((∃ d : Diagnostic, f.diagnostic? scope = some d) ↔ ∃ n : Int, f.LineIs n) ∧
    (∀ d : Diagnostic, f.diagnostic? scope = some d →
      (∀ n : Int, f.LineIs n → d.line = n - 1) ∧
      (∀ n : Int, f.ColumnIs n → d.column = n - 1) ∧
      ((¬ ∃ n : Int, f.ColumnIs n) → d.column = 0)) ∧
    (∀ fault : IntegerFault, readInteger 10 f.lineText = .error fault →
      f.diagnostic? scope = none) ∧
    (∀ (text : String) (fault : IntegerFault) (n : Int),
      f.columnText = some text → readInteger 10 text = .error fault → f.LineIs n →
        ∃ d : Diagnostic, f.diagnostic? scope = some d ∧ d.column = 0) := by
  have hlocated : ∀ d : Diagnostic, f.diagnostic? scope = some d →
      f.LineIs (d.line + 1) :=
    fun d hd => exists_diagnostic?_iff.mp ⟨d, hd, (Int.add_sub_cancel d.line 1).symm⟩
  refine ⟨⟨?_, ?_⟩, ?_, ?_, ?_⟩
  · rintro ⟨d, hd⟩
    exact ⟨d.line + 1, hlocated d hd⟩
  · rintro ⟨n, hn⟩
    obtain ⟨d, hd, -⟩ := exists_diagnostic?_iff.mpr hn
    exact ⟨d, hd⟩
  · intro d hd
    rw [column_of_diagnostic? hd]
    refine ⟨fun n hn => ?_, fun n hn => column_of_columnIs hn, column_of_none⟩
    have hsame := (hlocated d hd).1.unique hn.1
    omega
  · intro fault hfault
    rw [Option.eq_none_iff_forall_ne_some]
    intro d hd
    exact not_spellsInteger_of_error hfault _ (hlocated d hd).1
  · intro text fault n htext hfault hn
    obtain ⟨d, hd, -⟩ := exists_diagnostic?_iff.mpr hn
    refine ⟨d, hd, ?_⟩
    rw [column_of_diagnostic? hd]
    refine column_of_none ?_
    rintro ⟨m, text', htext', hm, -⟩
    obtain rfl := Option.some.inj (htext.symm.trans htext')
    exact not_spellsInteger_of_error hfault m hm

/-- A line in digits of two scripts between blanks, and a column with two underscores
between its digits. -/
theorem located_by_literals_scripts :
    let f : LineFields := ⟨"Error", none, "a.v", "\u3000+१_٠\u00A0", some "1__2", "m"⟩
    let scope : PathScope := ⟨true, none, .host⟩
    f.LineIs 10 ∧
    readInteger 10 "1__2" = .error (.malformed 10 "1__2") ∧
    ∃ d : Diagnostic, f.diagnostic? scope = some d ∧ d.line = 9 ∧ d.column = 0 := by
  intro f scope
  have hline : f.LineIs 10 := ⟨integer?_eq_some_iff.mp (by decide +kernel), by decide⟩
  have hfault : readInteger 10 "1__2" = .error (.malformed 10 "1__2") := by
    rfl
  obtain ⟨-, hplaces, -, hcolumn⟩ := located_by_literals f scope
  obtain ⟨d, hd, hzero⟩ := hcolumn "1__2" _ 10 rfl hfault hline
  exact ⟨hline, hfault, d, hd, (hplaces d hd).1 10 hline, hzero⟩

end Places

end LineFields
end HdlLint
