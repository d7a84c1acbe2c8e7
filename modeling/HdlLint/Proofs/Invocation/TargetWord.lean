import HdlLint.Proofs.Invocation.BuiltInvocation
import HdlLint.Proofs.Invocation.HelperAnswers
import HdlLint.Proofs.Path.SlashedPaths

/-!
# The file to lint among the words of an invocation

The words of an invocation end in the file to lint, written for the linter, but words that
are empty are left out.  A path is written as an empty word only inside the Linux
subsystem, by a translator that succeeds with nothing; then the linter is started without
a file.

* `LintRequest.written_eq_empty_iff`: when nothing is left of a path.
* `LintRequest.built_ends_in_target_iff`: when the words end in the file to lint, and what
  they are otherwise.
-/

namespace HdlLint

namespace LintRequest

/-- The path of the document is translated, and nothing comes of it: a helper ends with
zero having written line ends only, or a function gives the empty text. -/
inductive TranslatesToNothing (r : LintRequest) : Prop
  | helper
      {run : List String → HelperBehavior} {output : String} {errors : Option String}
      {ends : List Text.LineEnd}
      (htranslator : r.translator = .helper run)
      (hrun : run ["wsl", "wslpath", r.document.path] = .ends 0 output errors)
      (houtput : output.toList = ends.flatMap fun e => e.text.toList) :
      TranslatesToNothing r
  | function
      {run : String → Except Stop String}
      (htranslator : r.translator = .function run)
      (hrun : run r.document.path = .ok "") :
      TranslatesToNothing r

section Target

variable {r : LintRequest} {i : Invocation}

theorem readHelper_eq_empty_iff
    (path : String) (behavior : HelperBehavior) :
    Translator.readHelper path behavior = .ok "" ↔
      ∃ (output : String) (errors : Option String) (ends : List Text.LineEnd),
        behavior = .ends 0 output errors ∧
          output.toList = ends.flatMap fun e => e.text.toList := by
  constructor
  · intro h
    obtain ⟨output, errors, rfl⟩ :=
      (Translator.readHelper_isOk_iff path behavior).mp ⟨_, h⟩
    have hnothing : dropLineEnds output.toList = [] := by
      rw [← String.toList_ofList (l := dropLineEnds output.toList), Except.ok.inj h]
      rfl
    obtain ⟨ends, hends⟩ := (dropLineEnds_eq_nil_iff output.toList).mp hnothing
    exact ⟨output, errors, ends, rfl, hends⟩
  · rintro ⟨output, errors, ends, rfl, hends⟩
    rw [Translator.readHelper, if_pos rfl,
      (dropLineEnds_eq_nil_iff output.toList).mpr ⟨ends, hends⟩]

theorem translate_eq_empty_iff
    (r : LintRequest) :
    (r.translator.translate r.document.path).2 = .ok "" ↔ r.TranslatesToNothing := by
  constructor
  · intro h
    cases htranslator : r.translator with
    | helper run =>
        rw [htranslator] at h
        obtain ⟨output, errors, ends, hrun, houtput⟩ := (readHelper_eq_empty_iff _ _).mp h
        exact .helper htranslator hrun houtput
    | function run =>
        rw [htranslator] at h
        exact .function htranslator h
  · intro h
    cases h with
    | helper htranslator hrun houtput =>
        rw [htranslator]
        exact (readHelper_eq_empty_iff _ _).mpr ⟨_, _, _, hrun, houtput⟩
    | function htranslator hrun =>
        rw [htranslator]
        exact hrun

/-- Nothing is left of a path exactly if it is translated to nothing. -/
theorem written_eq_empty_iff
    (hdocument : r.document.path ≠ "") :
    r.written r.document.path = .ok "" ↔
      r.inSubsystem = true ∧ r.TranslatesToNothing := by
  unfold inSubsystem
  cases hwindows : r.platform.isWindows with
  | false =>
      rw [written_of_native hwindows]
      simpa using hdocument
  | true =>
      cases hwsl : r.settings.useWsl with
      | false =>
          rw [written_of_windows hwindows hwsl]
          have hkept : Path.Windows.toSlashes r.document.path.toList ≠ [] := by
            rw [Ne, Path.Windows.toSlashes_eq_nil_iff, String.toList_eq_nil_iff]
            exact hdocument
          simpa using hkept
      | true =>
          rw [written_of_subsystem hwindows hwsl, translate_eq_empty_iff]
          simp

/-- A word that is not empty stays the last one when the empty ones are left out. -/
theorem getLast?_filter_concat
    {word : String}
    (h : word ≠ "") (words : List String) :
    ((words ++ [word]).filter (· ≠ "")).getLast? = some word := by
  have hword : [word].filter (· ≠ "") = [word] := by
    simp [h]
  rw [List.filter_append, hword, List.getLast?_concat]

theorem filter_concat_empty
    (words : List String) :
    (words ++ [""]).filter (· ≠ "") = words.filter (· ≠ "") := by
  rw [List.filter_append]
  simp

/-- The words of an invocation for a document end in its path, which is written for the
linter and not empty, exactly if the document is not one whose path is translated to
nothing inside the Linux subsystem.  For such a document no word names the file to
lint. -/
theorem built_ends_in_target_iff
    (hdocument : r.document.path ≠ "")
    (hbuilt : r.built = .ok i) :
    (i.targetPath ≠ "" ∧ i.argv.getLast? = some i.targetPath ↔
      ¬ (r.inSubsystem = true ∧ r.TranslatesToNothing)) ∧
    (r.inSubsystem = true ∧ r.TranslatesToNothing →
      ∃ extra : List String,
        splitWords (!r.platform.isWindows) r.settings.arguments = .ok extra ∧
        i.argv =
          (r.starter ++ (if r.document.language = "systemverilog" then ["-sv"] else []) ++
            ["--lint-only", "-I" ++ i.includeFolder] ++ extra).filter (· ≠ "")) := by
  obtain ⟨htarget, -, -, ⟨extra, hextra, hargv⟩, -⟩ := built_eq_ok_iff.mp hbuilt
  have hempty : i.targetPath = "" ↔ r.inSubsystem = true ∧ r.TranslatesToNothing := by
    rw [← written_eq_empty_iff hdocument, htarget, Except.ok.injEq]
  refine ⟨?_, ?_⟩
  · rw [← hempty]
    constructor
    · exact fun h => h.1
    · intro hne
      refine ⟨hne, ?_⟩
      rw [hargv]
      exact getLast?_filter_concat hne _
  · intro hnothing
    refine ⟨extra, hextra, ?_⟩
    rw [hargv, hempty.mpr hnothing]
    exact filter_concat_empty _

/-- A helper that gives the path of the document in two lines. -/
theorem built_ends_in_target_iff_subsystem :
    let r : LintRequest :=
      ⟨⟨"C:\\w\\a.sv", systemLanguage⟩, { arguments := "''", useWsl := true },
        some "C:\\w", ⟨"win32"⟩,
        .helper fun _ => .ends 0 "/mnt/c/w\n/a.sv\r\n" none⟩
    r.document.path ≠ "" ∧
    ∃ i : Invocation, r.built = .ok i ∧ i.targetPath ≠ "" ∧
      i.argv.getLast? = some i.targetPath := by
  intro r
  have hdocument : r.document.path ≠ "" := by
    decide
  have hsome : r.built.toOption.isSome = true := by
    decide +kernel
  obtain ⟨i, hi⟩ : ∃ i : Invocation, r.built = .ok i := by
    cases hbuilt : r.built with
    | ok i =>
        exact ⟨i, rfl⟩
    | error stop =>
        rw [hbuilt] at hsome
        cases hsome
  have hsomething : ¬ (r.inSubsystem = true ∧ r.TranslatesToNothing) := by
    rw [← written_eq_empty_iff hdocument]
    intro hnothing
    have htarget : (r.written r.document.path).toOption = some "/mnt/c/w/a.sv" := by
      decide +kernel
    rw [hnothing] at htarget
    exact absurd htarget (by decide)
  exact ⟨hdocument, i, hi, (built_ends_in_target_iff hdocument hi).1.mpr hsomething⟩

/-- A helper that ends with zero and writes a line end only: the linter is started without
a file. -/
theorem started_without_target :
    let r : LintRequest :=
      ⟨⟨"C:\\w\\a.sv", systemLanguage⟩, { useWsl := true }, some "C:\\w", ⟨"win32"⟩,
        .helper fun words =>
          if words = ["wsl", "wslpath", "C:\\w\\a.sv"] then .ends 0 "\n" none
            else .ends 0 "/mnt/c/w\n" none⟩
    r.document.path ≠ "" ∧
    r.built.toOption.map Invocation.targetPath = some "" ∧
    (r.launch .timesOut).2.actions =
      [.launch ["wsl", "verilator", "-sv", "--lint-only",
        "-I/mnt/c/w"] (some "C:\\w")] := by
  decide +kernel

end Target

end LintRequest
end HdlLint
