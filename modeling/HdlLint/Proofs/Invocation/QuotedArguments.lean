import HdlLint.Proofs.Invocation.BuiltInvocation
import HdlLint.Proofs.Settings.CheckCrashes
import HdlLint.Proofs.Settings.EachSetting
import HdlLint.Proofs.Text.DecimalLiteral

/-!
# Arguments in quotes

Any texts can be given to the linter as extra arguments: each is put in single quotes, and
a single quote in it is written between double quotes, outside the others.  On every
platform such a line is accepted by the settings as it is and is split into these texts.

* `Words.splitWords_quotedLine`: the line is split into the texts.
* `Words.trim_quotedLine`: nothing is trimmed from it.
* `LintSettings.check_of_quotedLine`: the settings take it unchanged.
* `LintRequest.built_quoting`: the invocation has the texts that are not empty between the
  include flag and the target.
-/

namespace HdlLint

namespace Words

/-- A character of a text in single quotes. -/
def quotedChar (c : Char) : List Char :=
  if c = '\x27' then ['\x27', '\x22', '\x27', '\x22', '\x27'] else [c]

/-- A text in single quotes. -/
def singleQuoted (s : List Char) : List Char :=
  '\x27' :: (s.flatMap quotedChar ++ ['\x27'])

/-- The line of some texts in single quotes, with a space between neighbours. -/
def quotedLine (ws : List String) : String :=
  String.ofList ([' '].intercalate (ws.map fun w => singleQuoted w.toList))

section Splitting

variable (escapes : Bool)

/-- What stands in single quotes is read up to the quote that closes them. -/
theorem split_quotedChars
    (w s rest : List Char) :
    split escapes (.quoted '\x27') w (s.flatMap quotedChar ++ '\x27' :: rest) =
      split escapes .word (s.reverse ++ w) rest := by
  induction s generalizing w with
  | nil =>
      simp [split]
  | cons c s ih =>
      rw [List.flatMap_cons, List.append_assoc, List.reverse_cons, List.append_assoc,
        List.singleton_append, ← ih]
      by_cases hc : c = '\x27'
      · subst hc
        simp [quotedChar, split, isGap, isQuote]
      · simp [quotedChar, split, hc]

theorem split_singleQuoted
    (s rest : List Char) :
    split escapes .gap [] (singleQuoted s ++ rest) =
      split escapes .word s.reverse rest := by
  have hquote : split escapes .gap [] (singleQuoted s ++ rest) =
      split escapes (.quoted '\x27') [] (s.flatMap quotedChar ++ '\x27' :: rest) := by
    simp [singleQuoted, split, isGap, isQuote]
  rw [hquote, split_quotedChars, List.append_nil]

theorem split_intercalate
    (ws : List (List Char)) :
    split escapes .gap [] ([' '].intercalate (ws.map singleQuoted)) = .ok ws := by
  induction ws with
  | nil =>
      rfl
  | cons w ws ih =>
      cases ws with
      | nil =>
          have h := split_singleQuoted escapes w []
          rw [List.append_nil] at h
          rw [List.map_singleton, List.intercalate_singleton, h]
          simp [split]
      | cons v vs =>
          rw [List.map_cons, List.map_cons, List.intercalate_cons_cons,
            List.append_assoc, split_singleQuoted,
            ← List.map_cons]
          simp only [List.singleton_append, split, isGap, decide_true,
            Bool.true_or, if_true, ih]
          simp [Except.map]

/-- A line of texts in single quotes is split into these texts, whether or not a character
escapes others. -/
theorem splitWords_quotedLine
    (ws : List String) :
    splitWords escapes (quotedLine ws) = .ok ws := by
  have h := split_intercalate escapes (ws.map String.toList)
  rw [List.map_map] at h
  rw [splitWords, quotedLine, String.toList_ofList]
  simp only [Function.comp_def] at h
  rw [h]
  simp [Except.map]

end Splitting

section Trimming

/-- A quote stands at both ends of a line of texts in single quotes. -/
theorem ends_intercalate
    (w : List Char) (ws : List (List Char)) :
    ([' '].intercalate ((w :: ws).map singleQuoted)).head? = some '\x27' ∧
    ([' '].intercalate ((w :: ws).map singleQuoted)).getLast? = some '\x27' := by
  induction ws generalizing w with
  | nil =>
      refine ⟨rfl, ?_⟩
      rw [List.map_singleton, List.intercalate_singleton,
        singleQuoted, ← List.cons_append, List.getLast?_concat]
  | cons v vs ih =>
      rw [List.map_cons, List.map_cons, List.intercalate_cons_cons, ← List.map_cons]
      refine ⟨rfl, ?_⟩
      rw [List.getLast?_append, (ih v).2]
      rfl

/-- Nothing is trimmed from a line of texts in single quotes. -/
theorem trim_quotedLine
    (ws : List String) :
    Text.trim (quotedLine ws) = quotedLine ws := by
  have hquote : ∀ c ∈ some '\x27', Text.isBlank c = false := by
    rintro c ⟨⟩
    decide
  rw [Text.trim, quotedLine, String.toList_ofList]
  refine congrArg String.ofList ?_
  cases ws with
  | nil =>
      rfl
  | cons w ws =>
      have hlist : (w :: ws).map (fun v => singleQuoted v.toList) =
          (w.toList :: ws.map String.toList).map singleQuoted := by
        simp [Function.comp_def]
      obtain ⟨hhead, hlast⟩ := ends_intercalate w.toList (ws.map String.toList)
      rw [hlist]
      refine Text.stripWhile_of_ends ?_ ?_
      · rwa [hhead]
      · rwa [hlast]

end Trimming

end Words

section Settings

variable {ws : List String} {v : Value}

theorem Check.arguments_quotedLine
    (ws : List String) :
    Check.arguments (.text (Words.quotedLine ws)) = .ok (Words.quotedLine ws) := by
  rw [Check.arguments, Check.text, Checked.map, Words.trim_quotedLine]

/-- Checks the settings of a section but for its extra arguments, which are given. -/
def LintSettings.checkWith (arguments : String) (v : Value) : Checked LintSettings :=
  (fun path runAtFile useWsl timeout => ⟨path, arguments, runAtFile, useWsl, timeout⟩)
    <$> Check.field v "path" "" Check.text
    <*> Check.field v "run_at_file_location" false Check.bool
    <*> Check.field v "use_wsl" false Check.bool
    <*> Check.field v "timeout_sec" none Check.timeout

/-- A section whose extra arguments are texts in single quotes takes them as they are, if
its other settings are valid. -/
theorem LintSettings.check_of_quotedLine
    (h : v.field? "arguments" = some (.text (Words.quotedLine ws))) :
    LintSettings.check v = LintSettings.checkWith (Words.quotedLine ws) v := by
  have harguments : Check.field v "arguments" "" Check.arguments =
      .ok (Words.quotedLine ws) := by
    rw [Check.field, h]
    simp only [Check.arguments_quotedLine]
    rfl
  rw [LintSettings.check, LintSettings.checkWith,
    Settings.model_of_isMap (Settings.isMap_of_field? h), harguments]
  cases Check.field v "path" "" Check.text <;> rfl

end Settings

namespace LintRequest

/-- The request with some texts in single quotes for its extra arguments. -/
def quoting (r : LintRequest) (ws : List String) : LintRequest :=
  { r with settings := { r.settings with arguments := Words.quotedLine ws } }

section Quoting

variable {r : LintRequest} {ws : List String} {stop : Stop}

/-- With extra arguments in quotes a build stops at one of its two paths or not at all. -/
theorem written_of_built_quoting
    (h : (r.quoting ws).built = .error stop) :
    r.written r.document.path = .error stop ∨
      r.written r.documentFolder = .error stop := by
  cases built_eq_error_iff.mp h with
  | path hpath =>
      exact Or.inl hpath
  | folder _ hfolder =>
      exact Or.inr hfolder
  | arguments _ _ harguments =>
      cases (Words.splitWords_quotedLine _ ws).symm.trans harguments

/-- The words between the include folder and the target are the texts that are not
empty. -/
theorem argv_of_builds_quoting
    {i : Invocation}
    (h : (r.quoting ws).Builds i) :
    i.argv =
      (r.starter ++ (if r.document.language = "systemverilog" then ["-sv"] else []) ++
        ["--lint-only"]).filter (· ≠ "") ++
        ["-I" ++ i.includeFolder] ++ ws.filter (· ≠ "") ++
          [i.targetPath].filter (· ≠ "") := by
  obtain ⟨extra, hextra, hargv⟩ := h.words
  obtain rfl : ws = extra :=
    Except.ok.inj ((Words.splitWords_quotedLine _ ws).symm.trans hextra)
  have hwords : i.argv =
      (r.starter ++ (if r.document.language = "systemverilog" then ["-sv"] else []) ++
        ["--lint-only", "-I" ++ i.includeFolder] ++ ws ++ [i.targetPath]).filter
          (· ≠ "") := hargv
  rw [hwords]
  simp [List.filter_append]

/-- Any texts in single quotes are taken unchanged by the settings and split into
themselves on every platform, so that only the paths can stop the build.  The invocation
has those that are not empty, in order, between the include folder and the target. -/
theorem built_quoting
    (r : LintRequest) (ws : List String) :
    (∀ v : Value, v.field? "arguments" = some (.text (Words.quotedLine ws)) →
      LintSettings.check v = LintSettings.checkWith (Words.quotedLine ws) v) ∧
    splitWords (!r.platform.isWindows) (Words.quotedLine ws) = .ok ws ∧
    (∀ stop : Stop, (r.quoting ws).built = .error stop →
      r.written r.document.path = .error stop ∨
        r.written r.documentFolder = .error stop) ∧
    ∀ target folder : String,
      r.written r.document.path = .ok target → r.written r.documentFolder = .ok folder →
      ∃ i : Invocation, (r.quoting ws).built = .ok i ∧ i.targetPath = target ∧
        i.includeFolder = folder ∧
        i.argv =
          (r.starter ++ (if r.document.language = "systemverilog" then ["-sv"] else []) ++
              ["--lint-only"]).filter (· ≠ "") ++
            ["-I" ++ folder] ++ ws.filter (· ≠ "") ++ [target].filter (· ≠ "") := by
  refine ⟨fun _ => LintSettings.check_of_quotedLine, Words.splitWords_quotedLine _ ws,
    fun _ => written_of_built_quoting, ?_⟩
  intro target folder hpath hfolder
  cases hbuilt : (r.quoting ws).built with
  | error stop =>
      rcases written_of_built_quoting hbuilt with h | h
      · cases hpath.symm.trans h
      · cases hfolder.symm.trans h
  | ok i =>
      have hbuilds := built_eq_ok_iff.mp hbuilt
      obtain rfl : target = i.targetPath :=
        Except.ok.inj (hpath.symm.trans hbuilds.target)
      obtain rfl : folder = i.includeFolder :=
        Except.ok.inj (hfolder.symm.trans hbuilds.includes)
      exact ⟨i, rfl, rfl, rfl, argv_of_builds_quoting hbuilds⟩

/-- Texts with quotes of both kinds, a backslash, a line break and nothing at all, inside
the subsystem. -/
theorem built_quoting_subsystem :
    let r : LintRequest :=
      ⟨⟨"C:\\w\\a.sv", systemLanguage⟩, { useWsl := true }, none, ⟨"win32"⟩,
        .function fun path => .ok ("/mnt/" ++ path)⟩
    let ws : List String := ["it\x27s", "", " a\\\n", "\x22"]
    let v : Value :=
      .map [(.text "arguments", .text (Words.quotedLine ws)),
        (.text "use_wsl", .bool true)]
    v.field? "arguments" = some (.text (Words.quotedLine ws)) ∧
    LintSettings.check v = .ok { useWsl := true, arguments := Words.quotedLine ws } ∧
    r.written r.document.path = .ok "/mnt/C:\\w\\a.sv" ∧
      r.written r.documentFolder = .ok "/mnt/C:\\w" ∧
    ∃ i : Invocation, (r.quoting ws).built = .ok i ∧
      i.argv =
        ["wsl", "verilator", "-sv", "--lint-only", "-I/mnt/C:\\w", "it\x27s", " a\\\n",
          "\x22", "/mnt/C:\\w\\a.sv"] := by
  intro r ws v
  obtain ⟨hcheck, -, -, hbuilt⟩ := built_quoting r ws
  have hv : v.field? "arguments" = some (.text (Words.quotedLine ws)) := by
    rfl
  have htarget : r.written r.document.path = .ok "/mnt/C:\\w\\a.sv" := by
    rfl
  have hfolder : r.written r.documentFolder = .ok "/mnt/C:\\w" := by
    have hplace : r.documentFolder = "C:\\w" := by
      decide +kernel
    rw [hplace]
    rfl
  refine ⟨hv, ?_, htarget, hfolder, ?_⟩
  · rw [hcheck v hv]
    rfl
  · obtain ⟨i, hi, -, -, hargv⟩ := hbuilt _ _ htarget hfolder
    exact ⟨i, hi, hargv.trans (by decide)⟩

end Quoting

end LintRequest

end HdlLint
