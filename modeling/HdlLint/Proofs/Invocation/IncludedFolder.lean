import HdlLint.Proofs.Invocation.BuiltInvocation
import HdlLint.Proofs.Path.SlashedPaths

/-!
# The folder of included files

The folder in which included files are looked for is the folder of the document, found
before it is written for the linter.  On a Windows host without the Linux subsystem it is
also the folder of the file to lint as the linter knows it, since it makes no difference
to the folder of a path which separators the path is written with.

* `Platform.folder_slashed`: the folder of a path, written with slashes.
* `LintRequest.exists_built_iff_of_windows`: no path keeps an invocation from being built.
* `LintRequest.includeFolder_eq_folder`: the folder of included files is that of the file
  to lint.
-/

namespace HdlLint

/-- A Windows path with slashes for its backslashes. -/
def slashed (path : String) : String :=
  String.ofList (Path.Windows.toSlashes path.toList)

theorem Platform.folder_slashed
    {p : Platform}
    (h : p.isWindows = true) (path : String) :
    p.folder (slashed path) = slashed (p.folder path) := by
  simp only [Platform.folder, h, if_true, slashed, String.toList_ofList,
    Path.Windows.folder_toSlashes]

namespace LintRequest

section Windows

variable {r : LintRequest} {i : Invocation}

/-- On a Windows host without the subsystem an invocation is built unless the extra
arguments cannot be split. -/
theorem exists_built_iff_of_windows
    (hwindows : r.platform.isWindows = true)
    (hwsl : r.settings.useWsl = false) :
    (∃ i : Invocation, r.built = .ok i) ↔
      ∃ words : List String, splitWords false r.settings.arguments = .ok words := by
  have hwords : splitWords (!r.platform.isWindows) r.settings.arguments =
      splitWords false r.settings.arguments := by
    rw [hwindows, Bool.not_true]
  constructor
  · rintro ⟨i, hi⟩
    obtain ⟨words, hsplit, -⟩ := (built_eq_ok_iff.mp hi).words
    exact ⟨words, hwords ▸ hsplit⟩
  · rintro ⟨words, hsplit⟩
    cases hbuilt : r.built with
    | ok i =>
        exact ⟨i, rfl⟩
    | error stop =>
        cases built_eq_error_iff.mp hbuilt with
        | path hpath =>
            rw [written_of_windows hwindows hwsl] at hpath
            cases hpath
        | folder _ hfolder =>
            rw [written_of_windows hwindows hwsl] at hfolder
            cases hfolder
        | arguments _ _ harguments =>
            rw [hwords, hsplit] at harguments
            cases harguments

/-- On a Windows host without the subsystem the folder of included files is the folder of
the file to lint: taking the folder of a path and writing it with slashes may be done in
either order, for every path.  So the invocation has such a folder for every document,
unless it is not built because of the extra arguments. -/
theorem includeFolder_eq_folder
    (hwindows : r.platform.isWindows = true)
    (hwsl : r.settings.useWsl = false) :
    (∀ path : String, r.platform.folder (slashed path) =
      slashed (r.platform.folder path)) ∧
    ((∃ i : Invocation, r.built = .ok i) ↔
      ∃ words : List String, splitWords false r.settings.arguments = .ok words) ∧
    (∀ i : Invocation, r.built = .ok i →
      i.targetPath = slashed r.document.path ∧
        i.includeFolder = r.platform.folder i.targetPath) := by
  refine ⟨Platform.folder_slashed hwindows, exists_built_iff_of_windows hwindows hwsl,
    fun i hi => ?_⟩
  have hbuilds := built_eq_ok_iff.mp hi
  have htarget : i.targetPath = slashed r.document.path :=
    Except.ok.inj (hbuilds.target.symm.trans (written_of_windows hwindows hwsl _))
  have hfolder : i.includeFolder = slashed r.documentFolder :=
    Except.ok.inj (hbuilds.includes.symm.trans (written_of_windows hwindows hwsl _))
  refine ⟨htarget, ?_⟩
  rw [htarget, Platform.folder_slashed hwindows, hfolder, documentFolder]

/-- A document on a long network path, with runs of separators of both kinds. -/
theorem includeFolder_eq_folder_network :
    let r : LintRequest :=
      ⟨⟨"\\\\?/unc\\host/share\\//sub/\\a.sv", systemLanguage⟩, {}, none,
        ⟨"win32"⟩, .function .ok⟩
    r.platform.isWindows = true ∧ r.settings.useWsl = false ∧
    ∃ i : Invocation, r.built = .ok i ∧
      i.targetPath = "//?/unc/host/share///sub//a.sv" ∧
        i.includeFolder = "//?/unc/host/share///sub" := by
  intro r
  have hwindows : r.platform.isWindows = true := by
    decide
  have hwsl : r.settings.useWsl = false := rfl
  obtain ⟨-, hbuilds, hfolders⟩ := includeFolder_eq_folder hwindows hwsl
  obtain ⟨i, hi⟩ := hbuilds.mpr ⟨[], rfl⟩
  obtain ⟨htarget, hfolder⟩ := hfolders i hi
  have hslashed : slashed r.document.path = "//?/unc/host/share///sub//a.sv" := by
    decide +kernel
  rw [hslashed] at htarget
  refine ⟨hwindows, hwsl, i, hi, htarget, ?_⟩
  rw [hfolder, htarget]
  decide +kernel

end Windows

end LintRequest
end HdlLint
