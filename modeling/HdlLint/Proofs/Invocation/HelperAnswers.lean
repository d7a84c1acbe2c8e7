import HdlLint.Child.Run
import HdlLint.Proofs.Text.JoinedLines
import HdlLint.Proofs.Text.StrippedTexts

/-!
# What the helper makes of a path

Inside the Linux subsystem a helper program is asked for the name of a path.  What it
writes is the name, but for line ends, if it ends with zero; otherwise its complaint is
the reason of a fault.  A helper that the operating system does not start is a fault too,
but one that cannot be given its argument is a crash, although the linter that cannot be
given an argument is a fault.

* `dropLineEnds_eq_kept`, `dropLineEnds_eq_twoPasses` and `dropLineEnds_eq_nil_iff`: the
  name without line ends.
* `isLaunchFault_iff`: which failures to start the linter are faults.
* `Translator.translate_helper_iff`: what the helper makes of a path.
-/

namespace HdlLint

section LineEnds

/-- A line end stands at the beginning of a text. -/
def lineEndFirst : List Char → Bool
  | '\n' :: _ => true
  | '\r' :: '\n' :: _ => true
  | _ => false

/-- The characters of a text at which no line end begins, in order. -/
def keptOfLines (s : List Char) : List Char :=
  s.tails.filterMap fun t => if lineEndFirst t then none else t.head?

/-- A text without the occurrences of a word, which are looked for from left to right. -/
def removeWord (w : List Char) : List Char → List Char
  | [] => []
  | c :: r => if w <+: c :: r then removeWord w (r.drop (w.length - 1))
    else c :: removeWord w r
termination_by s => s.length
decreasing_by all_goals simp

/-- A text without line ends: what is left is exactly the characters at which none begins,
and it is the same to remove the two kinds of line ends one after another. -/
structure WithoutLineEnds (s t : List Char) : Prop where
  eq_kept : t = keptOfLines s
  eq_twoPasses : t = removeWord ['\n'] (removeWord ['\r', '\n'] s)
  not_mem : '\n' ∉ t

/-- A text begins with a line end of one character or of two, or with another
character. -/
theorem lineEndCases
    {motive : List Char → Prop}
    (nil : motive [])
    (crlf : ∀ r : List Char, motive r → motive ('\r' :: '\n' :: r))
    (lf : ∀ r : List Char, motive r → motive ('\n' :: r))
    (other : ∀ (c : Char) (r : List Char), c ≠ '\n' → (c = '\r' → r.head? ≠ some '\n') →
      motive r → motive (c :: r))
    (s : List Char) :
    motive s := by
  fun_induction dropLineEnds s with
  | case1 =>
      exact nil
  | case2 r ih =>
      exact crlf r ih
  | case3 r ih =>
      exact lf r ih
  | case4 c r hcr hlf ih =>
      refine other c r hlf ?_ ih
      intro hc hhead
      obtain ⟨r', rfl⟩ := List.head?_eq_some_iff.mp hhead
      exact hcr r' hc rfl

section Other

variable {c : Char} {r : List Char}

theorem dropLineEnds_other
    (hlf : c ≠ '\n')
    (hcr : c = '\r' → r.head? ≠ some '\n') :
    dropLineEnds (c :: r) = c :: dropLineEnds r := by
  rw [dropLineEnds.eq_4]
  · rintro r' rfl rfl
    exact hcr rfl rfl
  · exact hlf

theorem lineEndFirst_other
    (hlf : c ≠ '\n')
    (hcr : c = '\r' → r.head? ≠ some '\n') :
    lineEndFirst (c :: r) = false := by
  rw [lineEndFirst.eq_3]
  · rintro r' h
    exact hlf (List.cons.inj h).1
  · rintro r' h
    obtain ⟨rfl, rfl⟩ := List.cons.inj h
    exact hcr rfl rfl

theorem not_crlf_prefix_other
    (hcr : c = '\r' → r.head? ≠ some '\n') :
    ¬ ['\r', '\n'] <+: c :: r := by
  rw [List.cons_prefix_cons]
  rintro ⟨rfl, t, rfl⟩
  exact hcr rfl rfl

end Other

theorem keptOfLines_cons
    (c : Char) (r : List Char) :
    keptOfLines (c :: r) =
      (if lineEndFirst (c :: r) then [] else [c]) ++ keptOfLines r := by
  unfold keptOfLines
  rw [List.tails_cons, List.filterMap_cons]
  cases lineEndFirst (c :: r) <;> rfl

/-- A character is kept exactly if no line end begins at it. -/
theorem dropLineEnds_eq_kept
    (s : List Char) :
    dropLineEnds s = keptOfLines s := by
  induction s using lineEndCases with
  | nil =>
      rfl
  | crlf r ih =>
      rw [dropLineEnds, keptOfLines_cons, keptOfLines_cons, ih]
      rfl
  | lf r ih =>
      rw [dropLineEnds, keptOfLines_cons, ih]
      rfl
  | other c r hlf hcr ih =>
      rw [dropLineEnds_other hlf hcr, keptOfLines_cons, lineEndFirst_other hlf hcr, ih]
      rfl

theorem removeWord_cons_of_prefix
    {w t : List Char} {c : Char} {r : List Char}
    (h : c :: r = w ++ t)
    (hw : w ≠ []) :
    removeWord w (c :: r) = removeWord w t := by
  obtain ⟨a, w, rfl⟩ := List.exists_cons_of_ne_nil hw
  obtain ⟨rfl, rfl⟩ := List.cons.inj h
  rw [removeWord, if_pos ⟨t, rfl⟩]
  simp

theorem removeWord_cons_of_not_prefix
    {w : List Char} {c : Char} {r : List Char}
    (h : ¬ w <+: c :: r) :
    removeWord w (c :: r) = c :: removeWord w r := by
  rw [removeWord, if_neg h]

/-- Removing every line feed with a carriage return before it, and then every line feed
that is left, removes each line end once: the first pass brings no carriage return in
front of a line feed that was not there before. -/
theorem dropLineEnds_eq_twoPasses
    (s : List Char) :
    dropLineEnds s = removeWord ['\n'] (removeWord ['\r', '\n'] s) := by
  induction s using lineEndCases with
  | nil =>
      rw [dropLineEnds, removeWord, removeWord]
  | crlf r ih =>
      have hfirst : removeWord ['\r', '\n'] ('\r' :: '\n' :: r) =
          removeWord ['\r', '\n'] r :=
        removeWord_cons_of_prefix rfl (by simp)
      rw [dropLineEnds, hfirst, ih]
  | lf r ih =>
      have hfirst : removeWord ['\r', '\n'] ('\n' :: r) =
          '\n' :: removeWord ['\r', '\n'] r :=
        removeWord_cons_of_not_prefix (not_crlf_prefix_other (by simp))
      have hsecond : ∀ t : List Char,
          removeWord ['\n'] ('\n' :: t) = removeWord ['\n'] t :=
        fun t => removeWord_cons_of_prefix rfl (by simp)
      rw [dropLineEnds, hfirst, hsecond, ih]
  | other c r hlf hcr ih =>
      have hfirst : removeWord ['\r', '\n'] (c :: r) = c :: removeWord ['\r', '\n'] r :=
        removeWord_cons_of_not_prefix (not_crlf_prefix_other hcr)
      have hsecond : ∀ t : List Char,
          removeWord ['\n'] (c :: t) = c :: removeWord ['\n'] t := by
        intro t
        exact removeWord_cons_of_not_prefix
          (by simpa [List.cons_prefix_cons] using Ne.symm hlf)
      rw [dropLineEnds_other hlf hcr, hfirst, hsecond, ih]

theorem newline_not_mem_dropLineEnds
    (s : List Char) :
    '\n' ∉ dropLineEnds s := by
  induction s using lineEndCases with
  | nil =>
      simp [dropLineEnds]
  | crlf r ih =>
      rwa [dropLineEnds]
  | lf r ih =>
      rwa [dropLineEnds]
  | other c r hlf hcr ih =>
      rw [dropLineEnds_other hlf hcr, List.mem_cons, not_or]
      exact ⟨Ne.symm hlf, ih⟩

theorem withoutLineEnds_dropLineEnds
    (s : List Char) :
    WithoutLineEnds s (dropLineEnds s) where
  eq_kept := dropLineEnds_eq_kept s
  eq_twoPasses := dropLineEnds_eq_twoPasses s
  not_mem := newline_not_mem_dropLineEnds s

/-- Nothing is left of a text exactly if it consists of line ends. -/
theorem dropLineEnds_eq_nil_iff
    (s : List Char) :
    dropLineEnds s = [] ↔ ∃ ends : List Text.LineEnd,
      s = ends.flatMap fun e => e.text.toList := by
  constructor
  · intro h
    induction s using lineEndCases with
    | nil =>
        exact ⟨[], rfl⟩
    | crlf r ih =>
        rw [dropLineEnds] at h
        obtain ⟨ends, hr⟩ := ih h
        exact ⟨.crlf :: ends, by rw [List.flatMap_cons, ← hr]; rfl⟩
    | lf r ih =>
        rw [dropLineEnds] at h
        obtain ⟨ends, hr⟩ := ih h
        exact ⟨.lf :: ends, by rw [List.flatMap_cons, ← hr]; rfl⟩
    | other c r hlf hcr ih =>
        rw [dropLineEnds_other hlf hcr] at h
        cases h
  · rintro ⟨ends, rfl⟩
    induction ends with
    | nil =>
        rfl
    | cons e ends ih =>
        cases e with
        | lf =>
            exact ih
        | crlf =>
            exact ih

end LineEnds

section Starting

/-- A failure to start that is a fault when it is the linter that does not start. -/
def StartFault.IsLaunchFault (fault : StartFault) : Prop :=
  ∀ i : Invocation, ∃ reason : String,
    (LinterRun.launch i (.doesNotStart fault)).1 =
      .error (.fault (.launchFailed i.command reason))

/-- A linter that is refused by the operating system or cannot be given an argument is a
fault. -/
theorem isLaunchFault_iff
    (fault : StartFault) :
    fault.IsLaunchFault ↔ ∀ crash : Crash, fault ≠ .other crash := by
  constructor
  · rintro h crash rfl
    obtain ⟨reason, hreason⟩ := h ⟨[], none, "", "", ""⟩
    cases hreason
  · intro h i
    cases fault with
    | system refusal =>
        exact ⟨refusal.message, rfl⟩
    | argument crash =>
        exact ⟨crash.text, rfl⟩
    | other crash =>
        exact absurd rfl (h crash)

/-- A helper that starts, or does not start for a reason that is a fault of the linter. -/
def HelperBehavior.Foreseen (behavior : HelperBehavior) : Prop :=
  ∀ fault : StartFault, behavior = .doesNotStart fault → fault.IsLaunchFault

end Starting

namespace Translator

/-- The reason that a helper gives for its failure: what it wrote without the blanks
around it, or its code if nothing is left. -/
def GivesReason (code : Int) (errors : Option String) (reason : String) : Prop :=
  ∃ said : List Char, Text.Stripped (errors.getD "").toList said ∧
    reason = if said = [] then "exit code " ++ toString code else String.ofList said

/-- What is to be made of the behavior of a helper that is asked for a path. -/
inductive Answers (path : String) : HelperBehavior → Except Stop String → Prop
  | translated
      {output : String} {errors : Option String} {adapted : String}
      (hadapted : WithoutLineEnds output.toList adapted.toList) :
      Answers path (.ends 0 output errors) (.ok adapted)
  | failed
      {code : Int} {output : String} {errors : Option String} {reason : String}
      (hcode : code ≠ 0)
      (hreason : GivesReason code errors reason) :
      Answers path (.ends code output errors)
        (.error (.fault (.pathTranslationFailed path reason)))
  | refused
      (refusal : SystemRefusal) :
      Answers path (.doesNotStart (.system refusal))
        (.error (.fault (.pathTranslationFailed path refusal.message)))
  | argument
      (crash : Crash) :
      Answers path (.doesNotStart (.argument crash))
        (.error (.fault (.pathTranslationFailed path crash.text)))

section Asking

variable {run : List String → HelperBehavior} {path : String} {behavior : HelperBehavior}

theorem givesReason_helperReason
    (code : Int) (errors : Option String) :
    GivesReason code errors (helperReason code errors) := by
  refine ⟨(Text.trim (errors.getD "")).toList, Text.stripped_trim _, ?_⟩
  rw [helperReason, String.ofList_toList]
  exact if_congr (by rw [String.toList_eq_nil_iff]) rfl rfl

/-- A path is translated exactly if the helper ends with zero. -/
theorem readHelper_isOk_iff
    (path : String) (behavior : HelperBehavior) :
    (∃ adapted : String, readHelper path behavior = .ok adapted) ↔
      ∃ (output : String) (errors : Option String), behavior = .ends 0 output errors := by
  constructor
  · rintro ⟨adapted, h⟩
    cases behavior with
    | doesNotStart fault =>
        cases fault <;> cases h
    | ends code output errors =>
        by_cases hcode : code = 0
        · exact ⟨output, errors, by rw [hcode]⟩
        · rw [readHelper, if_neg hcode] at h
          cases h
  · rintro ⟨output, errors, rfl⟩
    exact ⟨_, rfl⟩

/-- The answer of a helper is what is to be made of its behavior, unless it cannot be
given its argument. -/
theorem answers_readHelper
    (hforeseen : behavior.Foreseen)
    (hargument : ∀ crash : Crash, behavior ≠ .doesNotStart (.argument crash)) :
    Answers path behavior (readHelper path behavior) := by
  cases behavior with
  | doesNotStart fault =>
      have hfault := (isLaunchFault_iff fault).mp (hforeseen fault rfl)
      cases fault with
      | system refusal =>
          exact .refused refusal
      | argument crash =>
          exact absurd rfl (hargument crash)
      | other crash =>
          exact absurd rfl (hfault crash)
  | ends code output errors =>
      by_cases hcode : code = 0
      · subst hcode
        refine .translated ?_
        rw [String.toList_ofList]
        exact withoutLineEnds_dropLineEnds output.toList
      · rw [readHelper, if_neg hcode]
        exact .failed hcode (givesReason_helperReason code errors)

theorem not_answers_crash
    (crash : Crash) :
    ¬ Answers path behavior (.error (.crash crash)) := by
  intro h
  cases h

/-- A helper that may fail to start as the linter may is run once, with these words, and
nothing else is asked of it.  It gives a path exactly if it ends with zero.  What comes of
it is what is to be made of its behavior, exactly if it does not fail to start for its
argument: that failure is not handled. -/
theorem translate_helper_iff
    (hforeseen : (run ["wsl", "wslpath", path]).Foreseen) :
    let behavior := run ["wsl", "wslpath", path]
    let answer := (helper run).translate path
    answer.1 = ["wsl", "wslpath", path] ∧
    (∀ run' : List String → HelperBehavior,
      run' ["wsl", "wslpath", path] = behavior → (helper run').translate path = answer) ∧
    ((∃ adapted : String, answer.2 = .ok adapted) ↔
      ∃ (output : String) (errors : Option String), behavior = .ends 0 output errors) ∧
    (Answers path behavior answer.2 ↔
      ∀ crash : Crash, behavior ≠ .doesNotStart (.argument crash)) ∧
    (∀ crash : Crash, behavior = .doesNotStart (.argument crash) →
      answer.2 = .error (.crash crash)) := by
  intro behavior answer
  have hanswer : answer.2 = readHelper path behavior :=
    rfl
  have hcrash : ∀ crash : Crash, behavior = .doesNotStart (.argument crash) →
      answer.2 = .error (.crash crash) := by
    intro crash hbehavior
    rw [hanswer, hbehavior]
    rfl
  refine ⟨rfl, ?_, ?_, ?_, hcrash⟩
  · intro run' hsame
    exact congrArg (fun b => (helperWords path, readHelper path b)) hsame
  · rw [hanswer]
    exact readHelper_isOk_iff path behavior
  · constructor
    · intro h crash hbehavior
      rw [hcrash crash hbehavior] at h
      exact not_answers_crash crash h
    · intro hargument
      rw [hanswer]
      exact answers_readHelper hforeseen hargument

/-- A helper that writes line ends of both kinds, and a carriage return that belongs to
none. -/
theorem translate_helper_iff_mixed :
    let path := "C:\\w"
    let run : List String → HelperBehavior :=
      fun _ => .ends 0 "/mnt\r\r\n/c\n/w\r\n" (some "warning\n")
    (run ["wsl", "wslpath", path]).Foreseen ∧
    Answers path (run ["wsl", "wslpath", path]) ((helper run).translate path).2 ∧
    ((helper run).translate path).2.toOption = some "/mnt\r/c/w" := by
  intro path run
  have hforeseen : (run ["wsl", "wslpath", path]).Foreseen := by
    intro fault h
    cases h
  obtain ⟨-, -, -, hanswers, -⟩ := translate_helper_iff hforeseen
  exact ⟨hforeseen, hanswers.mpr (by rintro crash ⟨⟩), by decide +kernel⟩

/-- A path that cannot be passed on to the helper is no fault, although it is one for the
linter. -/
theorem translate_unpassable :
    let path := "C:\\w\\a\x00.sv"
    let fault : StartFault := .argument (.of .value "embedded null byte")
    let run : List String → HelperBehavior := fun _ => .doesNotStart fault
    (run ["wsl", "wslpath", path]).Foreseen ∧
    ((helper run).translate path).2 = .error (.crash (.of .value "embedded null byte")) ∧
    ¬ Answers path (run ["wsl", "wslpath", path]) ((helper run).translate path).2 := by
  intro path fault run
  have hforeseen : (run ["wsl", "wslpath", path]).Foreseen := by
    rintro _ ⟨⟩
    exact (isLaunchFault_iff fault).mpr fun _ h => StartFault.noConfusion h
  exact ⟨hforeseen, rfl, not_answers_crash _⟩

end Asking

end Translator
end HdlLint
