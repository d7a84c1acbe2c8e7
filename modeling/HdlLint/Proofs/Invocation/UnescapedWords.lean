import HdlLint.Invocation.Build
import Mathlib.Tactic

/-!
# Words without escapes

On platforms whose paths hold backslashes no character of an argument line escapes
another.  What a character is there depends only on the quote that is open before it: it
opens or closes a quote, it is a gap outside quotes, or it belongs to a word.  A line is
cut at the maximal runs of its gaps, and the words are what belongs to each of its pieces.

* `split_of_open`: a line with an open quote at its end has no words.
* `split_of_closed`: the words of every other line.
* `CutAtGaps.flatten_kept`: what the words hold together.
* `extraWords_unescaped`: the extra arguments of a Windows host.
-/

namespace HdlLint.Words

/-- What a character of an argument line is. -/
inductive Role where
  | delimiter
  | gap
  | letter
  deriving Repr, DecidableEq

/-- The quote that is open behind a character, given the one that is open before it.  A
quote is closed by the same character only. -/
def quoteAfter (quote : Option Char) (c : Char) : Option Char :=
  match quote with
  | none => if isQuote c then some c else none
  | some q => if c = q then none else some q

/-- The quote that is open at the end of a line. -/
def openQuote (quote : Option Char) (line : List Char) : Option Char :=
  line.foldl quoteAfter quote

/-- What a character is behind an open quote, or outside quotes. -/
def role (quote : Option Char) (c : Char) : Role :=
  match quote with
  | none => if isQuote c then .delimiter else if isGap c then .gap else .letter
  | some q => if c = q then .delimiter else .letter

/-- The characters of a line with what they are. -/
def marked : Option Char → List Char → List (Char × Role)
  | _, [] => []
  | quote, c :: r => (c, role quote c) :: marked (quoteAfter quote c) r

/-- The characters that belong to words. -/
def kept (text : List (Char × Role)) : List Char :=
  (text.filter fun x => x.2 = .letter).map Prod.fst

/-- The pieces of a text between the maximal runs of its gaps.  Every piece holds
something, if only quotes. -/
inductive CutAtGaps : List (Char × Role) → List (List (Char × Role)) → Prop
  | done
      {run : List (Char × Role)}
      (hrun : ∀ x ∈ run, x.2 = .gap) :
      CutAtGaps run []
  | piece
      {run piece rest : List (Char × Role)} {pieces : List (List (Char × Role))}
      (hrun : ∀ x ∈ run, x.2 = .gap)
      (hne : piece ≠ [])
      (hpiece : ∀ x ∈ piece, x.2 ≠ .gap)
      (hrest : ∀ x ∈ rest.head?, x.2 = .gap)
      (hpieces : CutAtGaps rest pieces) :
      CutAtGaps (run ++ (piece ++ rest)) (piece :: pieces)

/-- A text that goes on a word: it begins with the rest of the piece of that word, which
may be empty, and the next pieces give the next words. -/
def GoesOn (text : List (Char × Role)) (word : List Char) (ws : List (List Char)) :
    Prop :=
  ∃ (first rest : List (Char × Role)) (pieces : List (List (Char × Role))),
    text = first ++ rest ∧
    (∀ x ∈ first, x.2 ≠ .gap) ∧
    (∀ x ∈ rest.head?, x.2 = .gap) ∧
    CutAtGaps rest pieces ∧
    ws = (word ++ kept first) :: pieces.map kept

section Pieces

variable {text : List (Char × Role)} {pieces : List (List (Char × Role))}
  {word : List Char} {ws : List (List Char)} {c : Char}

theorem kept_append
    (s t : List (Char × Role)) :
    kept (s ++ t) = kept s ++ kept t := by
  simp [kept]

theorem kept_of_gaps
    (h : ∀ x ∈ text, x.2 = .gap) :
    kept text = [] := by
  rw [kept, List.filter_eq_nil_iff.mpr]
  · rfl
  · intro x hx
    simp [h x hx]

/-- The pieces hold everything that belongs to words. -/
theorem CutAtGaps.flatten_kept
    (h : CutAtGaps text pieces) :
    (pieces.map kept).flatten = kept text := by
  induction h with
  | done hrun =>
      rw [kept_of_gaps hrun]
      rfl
  | piece hrun _ _ _ _ ih =>
      rw [kept_append, kept_append, kept_of_gaps hrun, ← ih]
      rfl

theorem CutAtGaps.cons_gap
    (h : CutAtGaps text pieces) :
    CutAtGaps ((c, .gap) :: text) pieces := by
  cases h with
  | done hrun =>
      exact .done (by simpa using hrun)
  | @piece run piece rest pieces hrun hne hpiece hrest hpieces =>
      have hlonger : ∀ x ∈ (c, Role.gap) :: run, x.2 = .gap := by
        simpa using hrun
      exact CutAtGaps.piece hlonger hne hpiece hrest hpieces

theorem GoesOn.nil
    (word : List Char) :
    GoesOn [] word [word] :=
  ⟨[], [], [], rfl, by simp, by simp, .done (by simp), by simp [kept]⟩

theorem GoesOn.letter
    (h : GoesOn text (word ++ [c]) ws) :
    GoesOn ((c, .letter) :: text) word ws := by
  obtain ⟨first, rest, pieces, rfl, hfirst, hrest, hpieces, rfl⟩ := h
  exact ⟨(c, .letter) :: first, rest, pieces,
    rfl, by simpa using hfirst, hrest, hpieces, by simp [kept]⟩

theorem GoesOn.delimiter
    (h : GoesOn text word ws) :
    GoesOn ((c, .delimiter) :: text) word ws := by
  obtain ⟨first, rest, pieces, rfl, hfirst, hrest, hpieces, rfl⟩ := h
  exact ⟨(c, .delimiter) :: first, rest, pieces,
    rfl, by simpa using hfirst, hrest, hpieces, by simp [kept]⟩

theorem GoesOn.gap
    (h : CutAtGaps text pieces) (c : Char) (word : List Char) :
    GoesOn ((c, .gap) :: text) word (word :: pieces.map kept) :=
  ⟨[], (c, .gap) :: text, pieces, rfl, by simp, by simp, h.cons_gap, by simp [kept]⟩

/-- A text that begins a word with something else than a gap is cut at the gaps behind
it. -/
theorem GoesOn.exists_pieces
    {r : Role}
    (h : GoesOn ((c, r) :: text) [] ws)
    (hr : r ≠ .gap) :
    ∃ pieces : List (List (Char × Role)), CutAtGaps ((c, r) :: text) pieces ∧
      ws = pieces.map kept := by
  obtain ⟨first, rest, pieces, htext, hfirst, hrest, hpieces, rfl⟩ := h
  refine ⟨first :: pieces, ?_, rfl⟩
  have hne : first ≠ [] := by
    rintro rfl
    rw [List.nil_append] at htext
    exact hr (hrest (c, r) (by simp [← htext]))
  have hnone : ∀ x ∈ ([] : List (Char × Role)), x.2 = .gap := by
    simp
  have hcut := CutAtGaps.piece hnone hne hfirst hrest hpieces
  rwa [List.nil_append, ← htext] at hcut

end Pieces

section Splitting

variable {quote : Option Char} {w s : List Char} {c : Char}

/-- The place in a word behind an open quote, or outside quotes. -/
def inWord : Option Char → Place
  | none => .word
  | some q => .quoted q

theorem not_isGap_of_isQuote
    (h : isQuote c = true) :
    isGap c = false := by
  simp only [isQuote, Bool.or_eq_true, decide_eq_true_eq] at h
  rcases h with rfl | rfl <;> rfl

/-- One character further in a word. -/
theorem split_inWord_cons
    (quote : Option Char) (w : List Char) (c : Char) (s : List Char) :
    split false (inWord quote) w (c :: s) =
      match role quote c with
      | .delimiter => split false (inWord (quoteAfter quote c)) w s
      | .gap => (split false .gap [] s).map (w.reverse :: ·)
      | .letter => split false (inWord (quoteAfter quote c)) (c :: w) s := by
  cases quote with
  | none =>
      cases hquote : isQuote c with
      | true =>
          simp [inWord, split, role, quoteAfter, hquote, not_isGap_of_isQuote hquote]
      | false =>
          cases hgap : isGap c <;> simp [inWord, split, role, quoteAfter, hquote, hgap]
  | some q =>
      by_cases hclose : c = q <;> simp [inWord, split, role, quoteAfter, hclose]

/-- Between words a gap is passed over, and everything else begins a word. -/
theorem split_gap_cons
    (w : List Char) (c : Char) (s : List Char) :
    split false .gap w (c :: s) =
      if role none c = .gap then split false .gap [] s
        else split false (inWord none) [] (c :: s) := by
  cases hquote : isQuote c with
  | true =>
      simp [inWord, split, role, hquote, not_isGap_of_isQuote hquote]
  | false =>
      cases hgap : isGap c <;> simp [inWord, split, role, hquote, hgap]

theorem quoteAfter_of_gap
    (h : role quote c = .gap) :
    quote = none ∧ quoteAfter quote c = none := by
  cases quote with
  | none =>
      cases hquote : isQuote c with
      | true =>
          simp [role, hquote] at h
      | false =>
          simp [quoteAfter, hquote]
  | some q =>
      by_cases hclose : c = q <;> simp [role, hclose] at h

/-- A line with an open quote at its end has no words, wherever it is begun. -/
theorem split_of_open
    (h : (openQuote quote s).isSome = true) :
    (∀ w : List Char, split false (inWord quote) w s = .error .unclosedQuote) ∧
    (quote = none → ∀ w : List Char, split false .gap w s = .error .unclosedQuote) := by
  induction s generalizing quote with
  | nil =>
      cases quote with
      | none =>
          cases h
      | some q =>
          exact ⟨fun _ => rfl, fun hnone => by cases hnone⟩
  | cons c s ih =>
      have hnext : (openQuote (quoteAfter quote c) s).isSome = true := h
      have hword : ∀ w : List Char, split false (inWord quote) w (c :: s) =
          .error .unclosedQuote := by
        intro w
        rw [split_inWord_cons]
        cases hrole : role quote c with
        | delimiter =>
            exact (ih hnext).1 w
        | gap =>
            simp only [(ih hnext).2 (quoteAfter_of_gap hrole).2 []]
            rfl
        | letter =>
            exact (ih hnext).1 (c :: w)
      refine ⟨hword, ?_⟩
      rintro rfl w
      rw [split_gap_cons]
      split
      · rename_i hrole
        exact (ih hnext).2 (quoteAfter_of_gap hrole).2 []
      · exact hword []

/-- Every other line is cut at its gaps: between words the pieces give the words, and in a
word the text goes on that word. -/
theorem split_of_closed
    (h : openQuote quote s = none) :
    (∀ w : List Char, ∃ ws : List (List Char),
      split false (inWord quote) w s = .ok ws ∧ GoesOn (marked quote s) w.reverse ws) ∧
    (quote = none → ∀ w : List Char, ∃ pieces : List (List (Char × Role)),
      split false .gap w s = .ok (pieces.map kept) ∧
        CutAtGaps (marked none s) pieces) := by
  induction s generalizing quote with
  | nil =>
      obtain rfl : quote = none := h
      exact ⟨fun w => ⟨[w.reverse], rfl, .nil w.reverse⟩,
        fun _ _ => ⟨[], rfl, .done (by simp [marked])⟩⟩
  | cons c s ih =>
      have hnext : openQuote (quoteAfter quote c) s = none := h
      have hword : ∀ w : List Char, ∃ ws : List (List Char),
          split false (inWord quote) w (c :: s) = .ok ws ∧
            GoesOn (marked quote (c :: s)) w.reverse ws := by
        intro w
        rw [split_inWord_cons, marked]
        cases hrole : role quote c with
        | delimiter =>
            obtain ⟨ws, hsplit, hgoes⟩ := (ih hnext).1 w
            exact ⟨ws, hsplit, hgoes.delimiter⟩
        | gap =>
            obtain ⟨-, hafter⟩ := quoteAfter_of_gap hrole
            obtain ⟨pieces, hsplit, hpieces⟩ := (ih hnext).2 hafter []
            refine ⟨w.reverse :: pieces.map kept, ?_, ?_⟩
            · simp only [hsplit]
              rfl
            · rw [hafter]
              exact .gap hpieces c w.reverse
        | letter =>
            obtain ⟨ws, hsplit, hgoes⟩ := (ih hnext).1 (c :: w)
            rw [List.reverse_cons] at hgoes
            exact ⟨ws, hsplit, hgoes.letter⟩
      refine ⟨hword, ?_⟩
      rintro rfl w
      rw [split_gap_cons]
      split
      · rename_i hrole
        obtain ⟨-, hafter⟩ := quoteAfter_of_gap hrole
        obtain ⟨pieces, hsplit, hpieces⟩ := (ih hnext).2 hafter []
        refine ⟨pieces, hsplit, ?_⟩
        rw [marked, hrole, hafter]
        exact hpieces.cons_gap
      · rename_i hrole
        obtain ⟨ws, hsplit, hgoes⟩ := hword []
        obtain ⟨pieces, hpieces, rfl⟩ := hgoes.exists_pieces hrole
        exact ⟨pieces, hsplit, hpieces⟩

theorem role_backslash
    (h : quote ≠ some '\\') :
    role quote '\\' = .letter := by
  cases quote with
  | none =>
      rfl
  | some q =>
      have hq : '\\' ≠ q := fun hq => h (by rw [hq])
      simp [role, hq]

theorem quoteAfter_ne_backslash
    (h : quote ≠ some '\\') (c : Char) :
    quoteAfter quote c ≠ some '\\' := by
  cases quote with
  | none =>
      simp only [quoteAfter]
      split
      · rename_i hquote
        rintro ⟨⟩
        cases hquote
      · simp
  | some q =>
      simp only [quoteAfter]
      split
      · simp
      · exact h

/-- No backslash is lost. -/
theorem filter_backslash_kept
    (h : quote ≠ some '\\') (s : List Char) :
    (kept (marked quote s)).filter (· = '\\') = s.filter (· = '\\') := by
  induction s generalizing quote with
  | nil =>
      rfl
  | cons c s ih =>
      have hrest := ih (quoteAfter_ne_backslash h c)
      by_cases hc : c = '\\'
      · subst hc
        rw [marked, role_backslash h]
        simpa [kept] using hrest
      · cases hrole : role quote c <;> simpa [marked, hrole, kept, hc] using hrest

end Splitting

section ExtraArguments

variable {platform : Platform}

theorem extraWords_of_windows
    (settings : LintSettings)
    (hplatform : platform.isWindows = true) :
    Invocation.extraWords settings platform =
      match split false .gap [] settings.arguments.toList with
      | .ok ws => .ok (ws.map String.ofList)
      | .error f => .error (.fault (.invalidArguments settings.arguments f.message)) := by
  rw [Invocation.extraWords, splitWords, hplatform]
  simp only [Bool.not_true]
  cases split false .gap [] settings.arguments.toList <;> rfl

/-- On Windows the extra arguments cannot be split exactly if a quote is open at their
end, and nothing else can go wrong.  Otherwise they are cut at the maximal runs of gaps
outside quotes, and the words hold everything but these gaps and the quotes that open and
close, with every backslash. -/
theorem extraWords_unescaped
    (settings : LintSettings)
    (hplatform : platform.isWindows = true) :
    let line := settings.arguments.toList
    let refusal : Stop :=
      .fault (.invalidArguments settings.arguments "No closing quotation")
    (Invocation.extraWords settings platform = .error refusal ↔
      (openQuote none line).isSome = true) ∧
    (∀ stop : Stop, Invocation.extraWords settings platform = .error stop →
      stop = refusal) ∧
    ∀ ws : List String, Invocation.extraWords settings platform = .ok ws →
      (∃ pieces : List (List (Char × Role)),
        CutAtGaps (marked none line) pieces ∧ ws.map String.toList = pieces.map kept) ∧
      (ws.map String.toList).flatten = kept (marked none line) ∧
      (ws.map String.toList).flatten.filter (· = '\\') = line.filter (· = '\\') := by
  intro line refusal
  rw [extraWords_of_windows settings hplatform]
  cases hopen : openQuote none line with
  | some q =>
      have hsplit : split false .gap [] line = .error .unclosedQuote :=
        (split_of_open (by rw [hopen]; rfl)).2 rfl []
      rw [hsplit]
      refine ⟨iff_of_true rfl rfl, ?_, ?_⟩
      · intro stop hstop
        exact (Except.error.inj hstop).symm
      · intro ws hws
        cases hws
  | none =>
      obtain ⟨pieces, hsplit, hpieces⟩ := (split_of_closed hopen).2 rfl []
      rw [hsplit]
      refine ⟨iff_of_false (by rintro ⟨⟩) (by decide), ?_, ?_⟩
      · intro stop hstop
        cases hstop
      · intro ws hws
        obtain rfl := Except.ok.inj hws
        have hwords : ((pieces.map kept).map String.ofList).map String.toList =
            pieces.map kept := by
          simp [Function.comp_def]
        rw [hwords, hpieces.flatten_kept]
        exact ⟨⟨pieces, hpieces, rfl⟩, rfl, filter_backslash_kept (by simp) line⟩

/-- Quotes that begin and end inside words, next to backslashes and around quotes of the
other kind, and a quote that is left open. -/
theorem extraWords_unescaped_mixed :
    let settings : LintSettings := { arguments := "-IC:\\'a \"b'\\c \t''" }
    let unclosed : LintSettings := { arguments := "a'b\\'' \"" }
    let windows : Platform := ⟨"win32"⟩
    windows.isWindows = true ∧
    (∃ ws : List String, Invocation.extraWords settings windows = .ok ws ∧
      (ws.map String.toList).flatten = "-IC:\\a \"b\\c".toList) ∧
    Invocation.extraWords unclosed windows =
      .error (.fault (.invalidArguments unclosed.arguments "No closing quotation")) := by
  intro settings unclosed windows
  have hwindows : windows.isWindows = true := by
    decide +kernel
  obtain ⟨-, -, hwords⟩ := extraWords_unescaped settings hwindows
  obtain ⟨hrefused, -, -⟩ := extraWords_unescaped unclosed hwindows
  refine ⟨hwindows, ?_, hrefused.mpr (by decide +kernel)⟩
  cases hextra : Invocation.extraWords settings windows with
  | ok ws =>
      refine ⟨ws, rfl, ?_⟩
      rw [(hwords ws hextra).2.1]
      decide +kernel
  | error stop =>
      have hsome : (Invocation.extraWords settings windows).toOption.isSome = true := by
        decide +kernel
      rw [hextra] at hsome
      cases hsome

end ExtraArguments

end HdlLint.Words
