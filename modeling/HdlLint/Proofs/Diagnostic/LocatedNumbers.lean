import HdlLint.Proofs.Diagnostic.LineAccount
import HdlLint.Proofs.Text.IntegerLiteral
import HdlLint.Proofs.Value.JsonNumbers

/-!
# Lines and columns that were read can be written

The number of a line or column is read from a literal, which may not have too many digits.
So what is read from a transcript can be written as a JSON number that is read back.

* `Text.natAbs_lt_of_integer?`: the value of a literal is bounded by the digits that it
  may have.
* `fewDigits_of_mem_read`: the lines and columns of diagnostics that were read.
-/

namespace HdlLint
namespace Text

section Literals

theorem natAbs_lt_of_integer?
    {text : String} {i : Int}
    (h : integer? text = some i) :
    i.natAbs < 10 ^ maxDigits := by
  cases integer?_eq_some_iff.mp h with
  | @literal _ _ _ _ factor ds _ _ hsign hdigits hlength =>
      have hfactor : factor.natAbs = 1 := by
        cases hsign <;> rfl
      have hsmall : ∀ d ∈ ds.reverse, d < 10 := fun d hd =>
        hdigits.lt_of_mem d (List.mem_reverse.mp hd)
      rw [Int.natAbs_mul, hfactor, Nat.one_mul, Int.natAbs_natCast]
      calc
        Nat.ofDigits 10 ds.reverse < 10 ^ ds.reverse.length :=
          Nat.ofDigits_lt_base_pow_length (by decide) hsmall
        _ ≤ 10 ^ maxDigits :=
          Nat.pow_le_pow_right (by decide) (by rwa [List.length_reverse])

end Literals

end Text

open Value.Json (FewDigits)

section Places

variable {f : LineFields} {scope : PathScope} {d : Diagnostic}

theorem fewDigits_iff
    {i : Int} :
    FewDigits i ↔ i.natAbs < 10 ^ Text.maxDigits := by
  have hsame : Value.Json.maxDigits = Text.maxDigits := rfl
  rw [FewDigits, hsame, Nat.length_toDigits_le_iff (by decide) (by decide)]

theorem fewDigits_of_zeroBased?
    {text : String} {c : Int}
    (h : LineFields.zeroBased? text = some c)
    (hc : 0 ≤ c) :
    FewDigits c := by
  obtain ⟨i, hi, rfl⟩ := Option.map_eq_some_iff.mp h
  have hbound := Text.natAbs_lt_of_integer? hi
  refine fewDigits_iff.mpr (Nat.lt_of_le_of_lt ?_ hbound)
  omega

theorem fewDigits_column
    (f : LineFields) :
    FewDigits f.column := by
  have hzero : FewDigits 0 := fewDigits_iff.mpr (Nat.pow_pos (by decide))
  unfold LineFields.column
  split
  · rename_i c hread
    obtain ⟨text, -, hc⟩ := Option.bind_eq_some_iff.mp hread
    split_ifs with hneg
    · exact hzero
    · exact fewDigits_of_zeroBased? hc (Int.not_lt.mp hneg)
  · exact hzero

/-- The line and the column of a diagnostic that was read have few digits. -/
theorem fewDigits_of_diagnostic?
    (h : f.diagnostic? scope = some d) :
    FewDigits d.line ∧ FewDigits d.column := by
  unfold LineFields.diagnostic? at h
  split at h
  · rename_i line hline
    split_ifs at h with hneg
    obtain rfl := Option.some.inj h
    exact ⟨fewDigits_of_zeroBased? hline (Int.not_lt.mp hneg), fewDigits_column f⟩
  · cases h

theorem fewDigits_of_readLine
    {line : String}
    (h : (Transcript.readLine scope line).1 = some d) :
    FewDigits d.line ∧ FewDigits d.column := by
  unfold Transcript.readLine at h
  split_ifs at h
  split at h
  · cases h
  · rename_i f _
    cases hfound : f.diagnostic? scope with
    | none =>
        rw [hfound] at h
        cases h
    | some d' =>
        rw [hfound] at h
        obtain rfl := Option.some.inj h
        exact fewDigits_of_diagnostic? hfound

theorem fewDigits_of_mem_read
    {transcript : String}
    (h : d ∈ (Transcript.read scope transcript).1.toList) :
    FewDigits d.line ∧ FewDigits d.column := by
  rw [Transcript.read, DiagnosticSet.mem_toList_ofList] at h
  obtain ⟨line, hline, hd⟩ := List.mem_filterMap.mp h
  obtain ⟨text, -, rfl⟩ := List.mem_map.mp hline
  exact fewDigits_of_readLine hd

end Places

end HdlLint
