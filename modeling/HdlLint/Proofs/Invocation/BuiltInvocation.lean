import HdlLint.Proofs.Session.RunStages

/-!
# What building an invocation does

To build an invocation, the path of the document is written for the linter, then its
folder, and then the extra arguments are split; the first of these that fails ends the
build.  Only inside the Linux subsystem is a translator asked, once for each path, and on
other platforms than Windows neither the translator nor the choice of the subsystem is
looked at.

* `LintRequest.build_cases`: the four ways a build can go, with what it took.
* `LintRequest.requests_paths`: what the translator is asked.
* `LintRequest.built_eq_error_iff` and `LintRequest.built_eq_ok_iff`: when a build fails,
  and what it gives otherwise.
* `LintRequest.build_accounts`: all of this, and the builds of other platforms.
-/

namespace HdlLint

/-- The words with which a translator is asked for a path. -/
def Translator.question (t : Translator) (path : String) : List String :=
  match t with
  | helper _ => ["wsl", "wslpath", path]
  | function _ => [path]

namespace LintRequest

/-- The linter is to run inside the Linux subsystem of a Windows host. -/
def inSubsystem (r : LintRequest) : Bool :=
  r.platform.isWindows && r.settings.useWsl

/-- The folder that holds the document. -/
def documentFolder (r : LintRequest) : String :=
  r.platform.folder r.document.path

/-- What building the invocation took. -/
def paths (r : LintRequest) : PathTrace :=
  (Invocation.build r.settings r.platform r.translator r.root r.document).2

/-- A program in the folder that the settings name, or by its name alone. -/
def inToolFolder (r : LintRequest) (join : List Char → List Char →
    List Char) (name : String) : String :=
  if r.settings.path = "" then name
  else String.ofList (join r.settings.path.toList name.toList)

/-- The words that start the linter.  Inside the subsystem it is started by another
program, and its folder is a POSIX path. -/
def starter (r : LintRequest) : List String :=
  if r.inSubsystem then ["wsl", r.inToolFolder Path.Posix.join "verilator"]
  else if r.platform.isWindows then [r.inToolFolder Path.Windows.join "verilator_bin.exe"]
  else [r.inToolFolder Path.Posix.join "verilator"]

/-- Why a build stops: the path of the document cannot be translated, or that of its
folder, or both are written and the extra arguments cannot be split. -/
inductive BuildStops (r : LintRequest) : Stop → Prop
  | path
      {stop : Stop}
      (hpath : r.written r.document.path = .error stop) :
      BuildStops r stop
  | folder
      {stop : Stop} {target : String}
      (hpath : r.written r.document.path = .ok target)
      (hfolder : r.written r.documentFolder = .error stop) :
      BuildStops r stop
  | arguments
      {f : WordFault} {target folder : String}
      (hpath : r.written r.document.path = .ok target)
      (hfolder : r.written r.documentFolder = .ok folder)
      (harguments : splitWords (!r.platform.isWindows) r.settings.arguments = .error f) :
      BuildStops r (.fault (.invalidArguments r.settings.arguments f.message))

/-- The invocation that a build gives: both paths as they are written for the linter, the
words that are not empty, and the folder to run in, as its host knows it. -/
structure Builds (r : LintRequest) (i : Invocation) : Prop where
  target : r.written r.document.path = .ok i.targetPath
  includes : r.written r.documentFolder = .ok i.includeFolder
  file : i.filePath = r.document.path
  words : ∃ extra : List String,
    splitWords (!r.platform.isWindows) r.settings.arguments = .ok extra ∧
    i.argv =
      (r.starter ++ (if r.document.language = "systemverilog" then ["-sv"] else []) ++
        ["--lint-only", "-I" ++ i.includeFolder] ++ extra ++ [i.targetPath]).filter
          (· ≠ "")
  folder : i.folder = if r.settings.runAtFile then some r.documentFolder else r.root

section Building

variable {r : LintRequest} {i : Invocation} {stop : Stop}

/-- The strategy of the request. -/
def strategy (r : LintRequest) : PathStrategy :=
  PathStrategy.select r.platform r.settings.useWsl r.translator

theorem adapt_eq
    (r : LintRequest) (path : String) :
    r.strategy.adapt path = (r.written path, (r.strategy.adapt path).2) :=
  Prod.ext (r.adapt_fst path) rfl

/-- What a build does: it stops at the first path, at the second one, at the extra
arguments, or nowhere. -/
theorem build_cases
    (r : LintRequest) :
    let build := Invocation.build r.settings r.platform r.translator r.root r.document
    let first := (r.strategy.adapt r.document.path).2
    let both := first.append (r.strategy.adapt r.documentFolder).2
    let assembled :=
      Invocation.assemble r.settings r.platform r.strategy r.root r.document
    (∃ stop : Stop, r.written r.document.path = .error stop ∧
      build = (.error stop, first)) ∨
    (∃ (target : String) (stop : Stop),
      r.written r.document.path = .ok target ∧ r.written r.documentFolder = .error stop ∧
        build = (.error stop, both)) ∨
    (∃ (target folder : String) (stop : Stop),
      r.written r.document.path = .ok target ∧ r.written r.documentFolder = .ok folder ∧
        assembled target folder = .error stop ∧ build = (.error stop, both)) ∨
    (∃ (target folder : String) (i : Invocation),
      r.written r.document.path = .ok target ∧ r.written r.documentFolder = .ok folder ∧
        assembled target folder = .ok i ∧
          build = (.ok i, both.append ⟨[], [i.event]⟩)) := by
  intro build first both assembled
  have hpath := r.adapt_eq r.document.path
  have hfolder := r.adapt_eq r.documentFolder
  simp only [build, Invocation.build]
  rw [← strategy, ← documentFolder, hpath]
  cases hwritten : r.written r.document.path with
  | error stop =>
      exact Or.inl ⟨stop, rfl, rfl⟩
  | ok target =>
      simp only
      rw [hfolder]
      cases hwritten' : r.written r.documentFolder with
      | error stop =>
          exact Or.inr (Or.inl ⟨target, stop, rfl, rfl, rfl⟩)
      | ok folder =>
          simp only
          cases hassembled :
            Invocation.assemble r.settings r.platform r.strategy r.root
            r.document target folder with
          | error stop =>
              exact Or.inr
                (Or.inr (Or.inl ⟨target, folder, stop, rfl, rfl, hassembled, rfl⟩))
          | ok i =>
              exact Or.inr
                (Or.inr (Or.inr ⟨target, folder, i, rfl, rfl, hassembled, rfl⟩))

theorem requests_adapt
    (r : LintRequest) (path : String) :
    (r.strategy.adapt path).2.requests =
      if r.inSubsystem then [r.translator.question path] else [] := by
  unfold strategy PathStrategy.select inSubsystem
  cases r.platform.isWindows with
  | false =>
      rfl
  | true =>
      cases r.settings.useWsl with
      | false =>
          rfl
      | true =>
          have hquestion : (r.translator.translate path).1 =
              r.translator.question path := by
            cases r.translator <;> rfl
          simp only [Bool.not_true, Bool.false_eq_true, if_false, if_true,
            PathStrategy.adapt, Bool.and_self,
            ← hquestion]
          cases (r.translator.translate path).2 <;> rfl

/-- Inside the subsystem a translator is asked for the path of the document and, if that
could be translated, for its folder. -/
theorem requests_paths
    (r : LintRequest) :
    r.paths.requests =
      if r.inSubsystem then
        r.translator.question r.document.path ::
          (match r.written r.document.path with
            | .ok _ => [r.translator.question r.documentFolder]
            | .error _ => [])
      else [] := by
  have hfirst := r.requests_adapt r.document.path
  have hsecond := r.requests_adapt r.documentFolder
  unfold paths
  rcases r.build_cases with ⟨stop, hpath, hbuild⟩ | ⟨target, stop, hpath, -, hbuild⟩ |
    ⟨target, folder, stop, hpath, -, -, hbuild⟩ | ⟨target, folder, i, hpath, -, -, hbuild⟩
  · rw [hbuild, hpath, hfirst]
  · rw [hbuild, hpath, PathTrace.append, hfirst, hsecond]
    split <;> rfl
  · rw [hbuild, hpath, PathTrace.append, hfirst, hsecond]
    split <;> rfl
  · rw [hbuild, hpath, PathTrace.append, PathTrace.append, hfirst, hsecond]
    split <;> rfl

theorem starter_eq
    (r : LintRequest) :
    r.strategy.wrapper ++ [r.strategy.binaryPath r.settings.path] = r.starter := by
  unfold strategy PathStrategy.select starter inSubsystem
  cases r.platform.isWindows with
  | false =>
      rfl
  | true =>
      cases r.settings.useWsl with
      | false =>
          rfl
      | true =>
          rfl

theorem assemble_eq_error_iff
    {target folder : String} :
    Invocation.assemble r.settings r.platform r.strategy r.root r.document target folder =
      .error stop ↔
      ∃ f : WordFault,
        splitWords (!r.platform.isWindows) r.settings.arguments = .error f ∧
        stop = .fault (.invalidArguments r.settings.arguments f.message) := by
  unfold Invocation.assemble Invocation.extraWords
  cases splitWords (!r.platform.isWindows) r.settings.arguments with
  | error f =>
      simp [Except.map, eq_comm]
  | ok extra =>
      simp [Except.map]

/-- The words of an invocation. -/
theorem arguments_eq
    (r : LintRequest) (extra : List String) (target folder : String) :
    Invocation.arguments r.settings r.document r.strategy extra target folder =
      (r.starter ++ (if r.document.language = "systemverilog" then ["-sv"] else []) ++
        ["--lint-only", "-I" ++ folder] ++ extra ++ [target]).filter (· ≠ "") := by
  have hflag :
      ([if r.document.isSystem then Invocation.systemFlag else ""] : List String).filter
      (· ≠ "") =
      (if r.document.language = "systemverilog" then ["-sv"]
        else []).filter (· ≠ "") := by
    by_cases hlanguage : r.document.language = "systemverilog"
    · simp [Document.isSystem, systemLanguage, hlanguage, Invocation.systemFlag]
    · simp [Document.isSystem, systemLanguage, hlanguage]
  have hwords : ∀ flag : String,
      r.strategy.wrapper ++
        [r.strategy.binaryPath r.settings.path, flag, Invocation.lintOnlyFlag,
          Invocation.includeFlag ++ folder] =
      r.starter ++ [flag] ++ ["--lint-only", "-I" ++ folder] := by
    intro flag
    rw [← starter_eq]
    simp [Invocation.lintOnlyFlag, Invocation.includeFlag]
  rw [Invocation.arguments, hwords]
  simp only [List.filter_append, hflag]

theorem assemble_eq_ok_iff
    {target folder : String} :
    Invocation.assemble r.settings r.platform r.strategy r.root r.document target folder =
      .ok i ↔
      i.targetPath = target ∧ i.includeFolder = folder ∧ i.filePath = r.document.path ∧
      i.folder = (if r.settings.runAtFile then some r.documentFolder else r.root) ∧
      ∃ extra : List String,
        splitWords (!r.platform.isWindows) r.settings.arguments = .ok extra ∧
        i.argv = Invocation.arguments r.settings r.document r.strategy
          extra target folder := by
  unfold Invocation.assemble Invocation.extraWords
  cases splitWords (!r.platform.isWindows) r.settings.arguments with
  | error f =>
      simp [Except.map]
  | ok extra =>
      constructor
      · intro h
        obtain rfl := Except.ok.inj h
        exact ⟨rfl, rfl, rfl, rfl, extra, rfl, rfl⟩
      · obtain ⟨argv, runFolder, file, target', folder'⟩ := i
        rintro ⟨rfl, rfl, rfl, rfl, extra', hextra, hargv⟩
        obtain rfl := Except.ok.inj hextra
        simp only at hargv
        subst hargv
        rfl

/-- A build fails exactly if one of its three stages is the first one to fail. -/
theorem built_eq_error_iff :
    r.built = .error stop ↔ r.BuildStops stop := by
  constructor
  · intro h
    rcases r.build_cases with
      ⟨stop', hpath, hbuild⟩ | ⟨target, stop', hpath, hfolder, hbuild⟩ |
      ⟨target, folder, stop', hpath, hfolder, hassembled, hbuild⟩ | ⟨target,
        folder, i, -, -, -, hbuild⟩
    · obtain rfl : stop' = stop :=
        Except.error.inj ((congrArg Prod.fst hbuild).symm.trans h)
      exact .path hpath
    · obtain rfl : stop' = stop :=
        Except.error.inj ((congrArg Prod.fst hbuild).symm.trans h)
      exact .folder hpath hfolder
    · obtain rfl : stop' = stop :=
        Except.error.inj ((congrArg Prod.fst hbuild).symm.trans h)
      obtain ⟨f, harguments, rfl⟩ := assemble_eq_error_iff.mp hassembled
      exact .arguments hpath hfolder harguments
    · cases (congrArg Prod.fst hbuild).symm.trans h
  · intro h
    rw [built_eq]
    cases h with
    | path hpath =>
        rw [hpath]
        rfl
    | folder hpath hfolder =>
        rw [hpath, ← documentFolder, hfolder]
        rfl
    | arguments hpath hfolder harguments =>
        rw [hpath, ← documentFolder, hfolder]
        exact assemble_eq_error_iff.mpr ⟨_, harguments, rfl⟩

/-- A build gives an invocation exactly if both paths can be written and the extra
arguments can be split. -/
theorem built_eq_ok_iff :
    r.built = .ok i ↔ r.Builds i := by
  have hstages : r.built = .ok i ↔
      ∃ target folder : String,
        r.written r.document.path = .ok target ∧ r.written r.documentFolder = .ok folder ∧
        Invocation.assemble r.settings r.platform r.strategy r.root r.document
          target folder = .ok i := by
    rw [built_eq, ← strategy, ← documentFolder]
    cases r.written r.document.path with
    | error stop =>
        simp [Except.bind]
    | ok target =>
        cases r.written r.documentFolder with
        | error stop =>
            simp [Except.bind]
        | ok folder =>
            simp [Except.bind]
  rw [hstages]
  constructor
  · rintro ⟨target, folder, hpath, hfolder, hassembled⟩
    obtain ⟨rfl, rfl, hfile, hrun, extra, hextra, hargv⟩ :=
      assemble_eq_ok_iff.mp hassembled
    exact ⟨hpath, hfolder, hfile, ⟨extra, hextra, by rw [hargv, arguments_eq]⟩, hrun⟩
  · rintro ⟨hpath, hfolder, hfile, ⟨extra, hextra, hargv⟩, hrun⟩
    exact ⟨_, _, hpath, hfolder,
      assemble_eq_ok_iff.mpr ⟨rfl, rfl, hfile, hrun, extra,
        hextra, by rw [hargv, arguments_eq]⟩⟩

theorem strategy_of_native
    (h : r.platform.isWindows = false) (useWsl : Bool) (translator : Translator) :
    PathStrategy.select r.platform useWsl translator = .native := by
  simp [PathStrategy.select, h]

/-- Off Windows the subsystem and the translator are not looked at. -/
theorem build_of_native
    (h : r.platform.isWindows = false) (useWsl : Bool) (translator : Translator) :
    Invocation.build { r.settings with useWsl := useWsl } r.platform
      translator r.root r.document =
      Invocation.build r.settings r.platform r.translator r.root r.document := by
  unfold Invocation.build
  rw [strategy_of_native h, strategy_of_native h]
  rfl

/-- A translator is asked for the path of the document and then for its folder, inside the
subsystem only and no longer than it succeeds.  A build fails in the first of its stages
that fails, the extra arguments being split last, and gives its words without the empty
ones otherwise.  On other platforms than Windows the subsystem and the translator make no
difference. -/
theorem build_accounts
    (r : LintRequest) :
    (r.paths.requests =
      if r.inSubsystem then
        r.translator.question r.document.path ::
          (match r.written r.document.path with
            | .ok _ => [r.translator.question r.documentFolder]
            | .error _ => [])
      else []) ∧
    (∀ stop : Stop, r.built = .error stop ↔ r.BuildStops stop) ∧
    (∀ i : Invocation, r.built = .ok i ↔ r.Builds i) ∧
    (∀ i : Invocation, r.built = .ok i → "" ∉ i.argv) ∧
    (r.platform.isWindows = false → ∀ (useWsl : Bool) (translator : Translator),
      Invocation.build { r.settings with useWsl := useWsl } r.platform
        translator r.root r.document =
        Invocation.build r.settings r.platform r.translator r.root r.document) := by
  refine ⟨r.requests_paths, fun _ => built_eq_error_iff,
    fun _ => built_eq_ok_iff, ?_, build_of_native⟩
  intro i hbuilt hempty
  obtain ⟨extra, -, hargv⟩ := (built_eq_ok_iff.mp hbuilt).words
  rw [hargv] at hempty
  simp at hempty

/-- A build inside the subsystem, with an extra argument that is empty, and the same on a
POSIX host. -/
theorem build_accounts_subsystem :
    let r : LintRequest :=
      ⟨⟨"C:\\w\\a.sv", systemLanguage⟩, { arguments := "-Wall ''", useWsl := true },
        some "C:\\w", ⟨"win32"⟩,
        .function fun path => .ok ("/mnt/" ++ path)⟩
    let native : LintRequest := { r with platform := .host }
    r.paths.requests = [["C:\\w\\a.sv"], ["C:\\w"]] ∧
    (∃ i : Invocation, r.built = .ok i ∧ r.Builds i ∧ "" ∉ i.argv ∧
      i.argv =
        ["wsl", "verilator", "-sv", "--lint-only", "-I/mnt/C:\\w", "-Wall",
          "/mnt/C:\\w\\a.sv"]) ∧
    native.platform.isWindows = false ∧
    Invocation.build { native.settings with useWsl := false } native.platform
      (.function .ok) native.root
        native.document =
      Invocation.build native.settings native.platform native.translator
        native.root native.document := by
  intro r native
  have hwords : r.built.toOption.map Invocation.argv =
      some ["wsl", "verilator", "-sv", "--lint-only", "-I/mnt/C:\\w", "-Wall",
        "/mnt/C:\\w\\a.sv"] := by
    decide +kernel
  obtain ⟨i, hbuilt, hargv⟩ := Option.map_eq_some_iff.mp hwords
  have hi : r.built = .ok i := by
    cases hresult : r.built with
    | ok i' =>
        rw [hresult] at hbuilt
        exact congrArg Except.ok (Option.some.inj hbuilt)
    | error stop =>
        rw [hresult] at hbuilt
        cases hbuilt
  have hnative : native.platform.isWindows = false := by
    decide +kernel
  obtain ⟨hrequests, -, hbuilds, hnonempty, -⟩ := build_accounts r
  refine ⟨?_, ⟨i, hi, (hbuilds i).mp hi, hnonempty i hi, hargv⟩, hnative, ?_⟩
  · rw [hrequests]
    decide +kernel
  · exact (build_accounts native).2.2.2.2 hnative false (.function .ok)

end Building

end LintRequest
end HdlLint
