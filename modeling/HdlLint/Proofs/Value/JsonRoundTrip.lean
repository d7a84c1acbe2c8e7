import HdlLint.Proofs.Value.JsonNumbers
import HdlLint.Proofs.Value.JsonStrings
import HdlLint.Proofs.Value.TextKeys

/-!
# JSON texts are read back

A value that is written as a JSON text is read back from it, on one line or on many, if
its integers are not too long and its maps have texts as keys, each of them once.  Numbers
that are not integers are read as numbers.

A text is read as a value if the reader finds the value and stops behind the text,
whatever follows, and with no more fuel and room than the text is long (`Reads`).  This is
preserved when texts are put together to a collection, so it holds of every text that is
written.

* `reads_quote`, `reads_int`, `exists_reads_real`: texts and numbers.
* `reads_list`, `reads_map`: the step, a collection of texts that are read.
* `reads_write`: every plain value.
* `isPrintable_write`: what is written on one line holds no line end.
* `Reads.ofJson?`, `ofJson?_toJson`: whole texts.
-/

namespace HdlLint
namespace Value
namespace Json

/-- A text is read as a value, and what follows it is left, unless it goes on with a
number. -/
structure Reads (text : String) (v : Value) : Prop where
  begins : ∃ (c : Char) (cs : List Char),
    text.toList = c :: cs ∧ isGap c = false ∧ c ≠ ']'
  read : ∀ rest : List Char, EndsNumber rest →
    ∀ fuel room : Nat, text.toList.length ≤ fuel → text.toList.length ≤ room →
      read fuel room (text.toList ++ rest) = .ok (v, rest)

/-- A text is read as an entry: a key, and a text that is read as its value. -/
def ReadsEntry (text : String) (e : Value × Value) : Prop :=
  ∃ (key t : String) (v : Value),
    e = (.text key, v) ∧ text = quote key ++ ": " ++ t ∧ Reads t v

/-- The parts of a collection are set apart by blanks, and by one comma between two of
them. -/
structure Spacing.IsSound (spacing : Spacing) : Prop where
  inner : ∀ level : Nat, ∀ c ∈ (spacing.inner level).toList, isGap c = true
  outer : ∀ level : Nat, ∀ c ∈ (spacing.outer level).toList, isGap c = true
  between : ∀ level : Nat, ∃ gap : List Char,
    (spacing.between level).toList = ',' :: gap ∧ ∀ c ∈ gap, isGap c = true

section Gaps

variable {gap s rest : List Char}

theorem skipGap_gap
    (hgap : ∀ c ∈ gap, isGap c = true)
    (hs : ∀ c ∈ s.head?, isGap c = false) :
    skipGap (gap ++ s) = s := by
  rw [skipGap, List.dropWhile_append_of_pos hgap]
  cases s with
  | nil => rfl
  | cons c s => simp [hs c rfl]

/-- Neither a blank nor a mark goes on with a number. -/
theorem endsNumber_cons
    {c : Char}
    (hc : isGap c = true ∨ c = ',' ∨ c = ']' ∨ c = '\x7d') :
    EndsNumber (c :: s) := by
  rintro d ⟨⟩
  simp only [isGap, Bool.or_eq_true, decide_eq_true_eq] at hc
  rcases hc with (((rfl | rfl) | rfl) | rfl) | rfl | rfl | rfl <;> decide

theorem endsNumber_gap
    {c : Char}
    (hgap : ∀ c ∈ gap, isGap c = true)
    (hc : c = ',' ∨ c = ']' ∨ c = '\x7d') :
    EndsNumber (gap ++ c :: s) := by
  cases gap with
  | nil => exact endsNumber_cons (Or.inr hc)
  | cons d gap => exact endsNumber_cons (Or.inl (hgap d List.mem_cons_self))

theorem isGap_of_mem_lineEnd
    {level : Nat} {c : Char}
    (h : c ∈ (lineEnd level).toList) :
    isGap c = true := by
  rw [lineEnd, String.toList_ofList, List.mem_cons] at h
  rcases h with rfl | hblank
  · rfl
  · obtain rfl := List.eq_of_mem_replicate hblank
    rfl

theorem oneLine_isSound :
    oneLine.IsSound where
  inner := by simp [oneLine]
  outer := by simp [oneLine]
  between _ := ⟨[' '], by simp [oneLine], by simp [isGap]⟩

theorem manyLines_isSound :
    manyLines.IsSound where
  inner _ _ := isGap_of_mem_lineEnd
  outer _ _ := isGap_of_mem_lineEnd
  between _ :=
    ⟨_, by rw [manyLines, String.toList_append]; rfl, fun _ => isGap_of_mem_lineEnd⟩

end Gaps

section Words

variable {text : String} {v : Value} {rest : List Char}

/-- Blanks before a text that is read are skipped. -/
theorem Reads.skipGap
    {gap : List Char}
    (h : Reads text v)
    (hgap : ∀ c ∈ gap, isGap c = true) (rest : List Char) :
    skipGap (gap ++ (text.toList ++ rest)) = text.toList ++ rest := by
  obtain ⟨c, cs, htext, hc, -⟩ := h.begins
  rw [htext]
  exact skipGap_gap hgap (by rintro d ⟨⟩; exact hc)

/-- A text that begins with none of the marks is read as a word or a number. -/
theorem reads_of_readPlain?
    {c : Char} {cs : List Char}
    (htext : text.toList = c :: cs)
    (hc : isGap c = false ∧ c ≠ ']' ∧ c ≠ '\x22' ∧ c ≠ '[' ∧ c ≠ '\x7b')
    (h : ∀ rest : List Char, EndsNumber rest →
      readPlain? (text.toList ++ rest) = some (v, rest)) :
    Reads text v := by
  obtain ⟨hgap, hclose, hquote, hlist, hmap⟩ := hc
  refine ⟨⟨c, cs, htext, hgap, hclose⟩, fun rest hrest fuel room hfuel _ => ?_⟩
  have hplain := h rest hrest
  rw [htext, List.cons_append] at hplain ⊢
  cases fuel with
  | zero => simp [htext] at hfuel
  | succ fuel =>
      rw [read]
      · rw [hplain]
        rfl
      all_goals
        rintro r heq
        cases heq
        contradiction

theorem reads_null :
    Reads "null" .null :=
  reads_of_readPlain? rfl (by decide) fun _ _ => rfl

theorem reads_bool
    (b : Bool) :
    Reads (if b then "true" else "false") (.bool b) := by
  cases b with
  | true => exact reads_of_readPlain? rfl (by decide) fun _ _ => rfl
  | false => exact reads_of_readPlain? rfl (by decide) fun _ _ => rfl

/-- What begins a number is no mark. -/
theorem exists_cons_signed
    {whole s : List Char}
    (h : IsWhole whole) (negative : Bool) :
    ∃ (c : Char) (cs : List Char), signed negative (whole ++ s) = c :: cs ∧
      isGap c = false ∧ c ≠ ']' ∧ c ≠ '\x22' ∧ c ≠ '[' ∧ c ≠ '\x7b' := by
  cases negative with
  | true => exact ⟨'-', whole ++ s, rfl, by decide⟩
  | false =>
      obtain ⟨d, ds, rfl⟩ := List.exists_cons_of_ne_nil h.ne_nil
      have hd := h.all_digits d List.mem_cons_self
      refine ⟨d, ds ++ s, rfl, ?_, ?_, ?_, ?_, ?_⟩
      · simp only [isGap, Bool.or_eq_false_iff, decide_eq_false_iff_not]
        refine ⟨⟨⟨?_, ?_⟩, ?_⟩, ?_⟩ <;> rintro rfl <;> exact absurd hd (by decide)
      all_goals
        rintro rfl
        exact absurd hd (by decide)

theorem reads_int
    {i : Int}
    (h : FewDigits i) :
    Reads (toString i) (.int i) := by
  obtain ⟨c, cs, htext, hc⟩ := exists_cons_signed (s := [])
    (isWhole_toDigits i.natAbs) (decide (i < 0))
  rw [List.append_nil, ← toList_toString_int] at htext
  exact reads_of_readPlain? htext hc fun _ hrest => readPlain?_int h hrest

/-- What is written for a number is read as a number. -/
theorem exists_reads_real
    (x : Binary64) :
    ∃ y : Binary64, Reads (x.render Binary64.documentLayout) (.real y) := by
  cases x with
  | nan => exact ⟨.nan, reads_of_readPlain? rfl (by decide) fun _ _ => rfl⟩
  | infinite negative =>
      cases negative with
      | true => exact ⟨.infinite true, reads_of_readPlain? rfl (by decide) fun _ _ => rfl⟩
      | false => exact ⟨.infinite false,
        reads_of_readPlain? rfl (by decide) fun _ _ => rfl⟩
  | finite negative m e =>
      obtain ⟨y, hy⟩ := exists_readPlain?_finite negative m e
      obtain ⟨whole, fraction, exponent, hdecimal, -, htext⟩ :=
        isDecimal_render negative m e
      obtain ⟨c, cs, hbegin, hc⟩ := exists_cons_signed
        (s := fraction ++ exponent) hdecimal.whole negative
      exact ⟨y, reads_of_readPlain? (htext.trans hbegin) hc hy⟩

end Words

section Texts

theorem length_le_flatMap_escapeChar
    (cs : List Char) :
    cs.length ≤ (cs.flatMap escapeChar).length := by
  induction cs with
  | nil => exact Nat.le_refl 0
  | cons c cs ih =>
      have hc := List.length_pos_of_ne_nil (escapeChar_ne_nil c)
      rw [List.flatMap_cons, List.length_append, List.length_cons]
      omega

/-- A text behind its opening quote is read up to its closing one. -/
theorem readString?_quote
    (s : String) (rest : List Char) :
    let behind := s.toList.flatMap escapeChar ++ '\x22' :: rest
    readString? (behind.length + 1) [] behind = some (s, rest) := by
  intro behind
  have hlength := length_le_flatMap_escapeChar s.toList
  have hfuel : s.toList.length < behind.length + 1 := by
    simp only [behind, List.length_append]
    omega
  rw [readString?_escaped hfuel]
  simp

theorem toList_quote_append
    (s : String) (rest : List Char) :
    (quote s).toList ++ rest =
      '\x22' :: (s.toList.flatMap escapeChar ++ '\x22' :: rest) := by
  simp [quote]

theorem reads_quote
    (s : String) :
    Reads (quote s) (.text s) := by
  refine ⟨⟨'\x22', _, by rw [quote, String.toList_ofList]; rfl, by decide⟩,
    fun rest _ fuel room hfuel _ => ?_⟩
  rw [toList_quote_append]
  cases fuel with
  | zero => simp [quote] at hfuel
  | succ fuel =>
      rw [read, readString?_quote]
      rfl

end Texts

section Joined

variable {between outer gap : List Char} {texts : List String}

/-- The parts of a collection, and what stands before its closing mark. -/
def joined (between outer : List Char) (texts : List String) : List Char :=
  between.intercalate (texts.map String.toList) ++ outer

theorem joined_singleton
    (between outer : List Char) (text : String) :
    joined between outer [text] = text.toList ++ outer := by
  simp [joined]

theorem joined_cons_cons
    (gap outer : List Char) (text next : String) (texts : List String) :
    joined (',' :: gap) outer (text :: next :: texts) =
      text.toList ++ ',' :: (gap ++ joined (',' :: gap) outer (next :: texts)) := by
  simp [joined, List.intercalate_cons_cons]

theorem exists_joined_cons
    (between outer : List Char) (text : String) (texts : List String) :
    ∃ s : List Char, joined between outer (text :: texts) = text.toList ++ s := by
  cases texts with
  | nil => exact ⟨outer, joined_singleton between outer text⟩
  | cons next texts =>
      exact ⟨_, by rw [joined, List.map_cons, List.map_cons,
        List.intercalate_cons_cons, List.append_assoc,
      List.append_assoc]⟩

/-- A text that does not begin with a blank. -/
def BeginsNoGap (text : String) : Prop :=
  ∃ (c : Char) (cs : List Char), text.toList = c :: cs ∧ isGap c = false

theorem skipGap_joined
    {text : String}
    (hgap : ∀ c ∈ gap, isGap c = true)
    (htext : BeginsNoGap text) (rest : List Char) :
    skipGap (gap ++ (joined between outer (text :: texts) ++ rest)) =
      joined between outer (text :: texts) ++ rest := by
  obtain ⟨s, hs⟩ := exists_joined_cons between outer text texts
  obtain ⟨c, cs, htext, hc⟩ := htext
  rw [hs, htext]
  exact skipGap_gap hgap (by rintro d ⟨⟩; exact hc)

theorem Reads.begins_noGap
    {text : String} {v : Value}
    (h : Reads text v) :
    BeginsNoGap text := by
  obtain ⟨c, cs, htext, hc, -⟩ := h.begins
  exact ⟨c, cs, htext, hc⟩

theorem ReadsEntry.begins_noGap
    {text : String} {e : Value × Value}
    (h : ReadsEntry text e) :
    BeginsNoGap text := by
  obtain ⟨key, t, v, -, rfl, -⟩ := h
  have hbegin : ∃ cs : List Char, (quote key ++ ": " ++ t).toList = '\x22' :: cs := by
    rw [String.toList_append, String.toList_append, quote, String.toList_ofList]
    exact ⟨_, rfl⟩
  obtain ⟨cs, hcs⟩ := hbegin
  exact ⟨'\x22', cs, hcs, by decide⟩

end Joined

section Steps

variable {text key : String} {v : Value} {s r rest : List Char} {fuel room : Nat}

theorem readItems_last
    (htext : Reads text v)
    (hs : EndsNumber s)
    (hfuel : text.toList.length ≤ fuel)
    (hroom : text.toList.length ≤ room)
    (hend : skipGap s = ']' :: rest) :
    readItems (fuel + 1) room (text.toList ++ s) = .ok ([v], rest) := by
  simp only [readItems, htext.read s hs fuel room hfuel hroom, bind, Except.bind, hend]
  rfl

theorem readItems_more
    {vs : List Value}
    (htext : Reads text v)
    (hs : EndsNumber s)
    (hfuel : text.toList.length ≤ fuel)
    (hroom : text.toList.length ≤ room)
    (hmore : skipGap s = ',' :: r)
    (hrest : readItems fuel room (skipGap r) = .ok (vs, rest)) :
    readItems (fuel + 1) room (text.toList ++ s) = .ok (v :: vs, rest) := by
  simp only [readItems, htext.read s hs fuel room hfuel hroom, bind,
    Except.bind, hmore, hrest]
  rfl

theorem toList_entry_append
    (key text : String) (s : List Char) :
    (quote key ++ ": " ++ text).toList ++ s =
      '\x22' :: (key.toList.flatMap escapeChar ++ '\x22' :: ':' :: ' ' ::
        (text.toList ++ s)) := by
  simp [quote]

theorem skipGap_colon
    (htext : Reads text v) (s : List Char) :
    skipGap (' ' :: (text.toList ++ s)) = text.toList ++ s :=
  htext.skipGap (show ∀ c ∈ [' '], isGap c = true by simp [isGap]) s

theorem readEntries_last
    (htext : Reads text v)
    (hs : EndsNumber s)
    (hfuel : text.toList.length ≤ fuel)
    (hroom : text.toList.length ≤ room)
    (hend : skipGap s = '\x7d' :: rest) :
    readEntries (fuel + 1) room ((quote key ++ ": " ++ text).toList ++ s) =
      .ok ([(.text key, v)], rest) := by
  have hcolon : ∀ s : List Char, skipGap (':' :: s) = ':' :: s := fun _ => rfl
  rw [toList_entry_append]
  simp only [readEntries, readString?_quote, required, bind, Except.bind,
    hcolon, skipGap_colon htext,
    htext.read s hs fuel room hfuel hroom, hend]
  rfl

theorem readEntries_more
    {es : List (Value × Value)}
    (htext : Reads text v)
    (hs : EndsNumber s)
    (hfuel : text.toList.length ≤ fuel)
    (hroom : text.toList.length ≤ room)
    (hmore : skipGap s = ',' :: r)
    (hrest : readEntries fuel room (skipGap r) = .ok (es, rest)) :
    readEntries (fuel + 1) room ((quote key ++ ": " ++ text).toList ++ s) =
      .ok ((.text key, v) :: es, rest) := by
  have hcolon : ∀ s : List Char, skipGap (':' :: s) = ':' :: s := fun _ => rfl
  rw [toList_entry_append]
  simp only [readEntries, readString?_quote, required, bind, Except.bind,
    hcolon, skipGap_colon htext,
    htext.read s hs fuel room hfuel hroom, hmore, hrest]
  rfl

end Steps

section Collections

variable {between outer gap : List Char} {texts : List String} {vs : List Value}
  {entries : List (Value × Value)}

/-- The texts of the members of a list are read up to its end. -/
theorem readItems_joined
    (hbetween : between = ',' :: gap ∧ ∀ c ∈ gap, isGap c = true)
    (houter : ∀ c ∈ outer, isGap c = true)
    (htexts : List.Forall₂ Reads texts vs)
    (hne : texts ≠ []) (rest : List Char) {fuel room : Nat}
    (hfuel : (joined between outer texts).length < fuel)
    (hroom : (joined between outer texts).length ≤ room) :
    readItems fuel room (joined between outer texts ++ ']' :: rest) = .ok (vs, rest) := by
  obtain ⟨rfl, hgap⟩ := hbetween
  induction htexts generalizing fuel with
  | nil => exact absurd rfl hne
  | @cons text v texts vs htext htexts ih =>
      obtain ⟨fuel, rfl⟩ :=
        Nat.exists_eq_succ_of_ne_zero (Nat.ne_of_gt (Nat.zero_lt_of_lt hfuel))
      cases htexts with
      | nil =>
          rw [joined_singleton, List.length_append] at hfuel hroom
          rw [joined_singleton, List.append_assoc]
          exact readItems_last htext (endsNumber_gap houter (by simp))
            (by omega) (by omega)
            (skipGap_gap houter (by simp [isGap]))
      | @cons next w texts ws hnext htexts =>
          rw [joined_cons_cons, List.length_append, List.length_cons,
            List.length_append] at hfuel hroom
          rw [joined_cons_cons, List.append_assoc, List.cons_append, List.append_assoc]
          refine readItems_more htext (endsNumber_cons (by simp))
            (by omega) (by omega) rfl ?_
          rw [skipGap_joined hgap hnext.begins_noGap]
          exact ih (by simp) (by omega) (by omega)

/-- The texts of the entries of a map are read up to its end. -/
theorem readEntries_joined
    (hbetween : between = ',' :: gap ∧ ∀ c ∈ gap, isGap c = true)
    (houter : ∀ c ∈ outer, isGap c = true)
    (htexts : List.Forall₂ ReadsEntry texts entries)
    (hne : texts ≠ []) (rest : List Char) {fuel room : Nat}
    (hfuel : (joined between outer texts).length < fuel)
    (hroom : (joined between outer texts).length ≤ room) :
    readEntries fuel room (joined between outer texts ++ '\x7d' :: rest) =
      .ok (entries, rest) := by
  obtain ⟨rfl, hgap⟩ := hbetween
  induction htexts generalizing fuel with
  | nil => exact absurd rfl hne
  | @cons text e texts es hentry htexts ih =>
      obtain ⟨fuel, rfl⟩ :=
        Nat.exists_eq_succ_of_ne_zero (Nat.ne_of_gt (Nat.zero_lt_of_lt hfuel))
      obtain ⟨key, t, v, rfl, rfl, ht⟩ := hentry
      have hlength : t.toList.length ≤ (quote key ++ ": " ++ t).toList.length := by
        rw [String.toList_append, List.length_append]
        exact Nat.le_add_left _ _
      cases htexts with
      | nil =>
          rw [joined_singleton, List.length_append] at hfuel hroom
          rw [joined_singleton, List.append_assoc]
          exact readEntries_last ht (endsNumber_gap houter (by simp))
            (by omega) (by omega)
            (skipGap_gap houter (by simp [isGap]))
      | @cons next e' texts es' hnext htexts =>
          rw [joined_cons_cons, List.length_append, List.length_cons,
            List.length_append] at hfuel hroom
          rw [joined_cons_cons, List.append_assoc, List.cons_append, List.append_assoc]
          refine readEntries_more ht (endsNumber_cons (by simp))
            (by omega) (by omega) rfl ?_
          rw [skipGap_joined hgap hnext.begins_noGap]
          exact ih (by simp) (by omega) (by omega)

end Collections

section Values

variable {spacing : Spacing} {texts : List String} {vs : List Value}
  {entries : List (Value × Value)}

theorem toList_collection
    (spacing : Spacing) (level : Nat) (opening closing : String)
    {texts : List String} (hne : texts ≠ []) :
    (collection spacing level opening closing texts).toList =
      opening.toList ++ ((spacing.inner level).toList ++
        (joined (spacing.between level).toList (spacing.outer level).toList texts ++
          closing.toList)) := by
  simp [collection, joined, hne, String.toList_intercalate]

/-- The text of a collection is read if it is read from its opening mark on, with less
fuel for its parts. -/
theorem reads_collection
    {level : Nat} {opening closing : String} {o c : Char} {v : Value}
    (hopening : opening.toList = [o])
    (hclosing : closing.toList = [c])
    (ho : isGap o = false ∧ o ≠ ']')
    (hnone : texts = [] →
      ∀ (rest : List Char) (fuel room : Nat),
        read (fuel + 1) (room + 1) (o :: c :: rest) = .ok (v, rest))
    (hsome : texts ≠ [] → ∀ (rest : List Char) (fuel room : Nat),
      let parts :=
        joined (spacing.between level).toList (spacing.outer level).toList texts
      parts.length < fuel → parts.length ≤ room →
        read (fuel + 1) (room + 1)
          (o :: ((spacing.inner level).toList ++ (parts ++ c :: rest))) = .ok (v, rest)) :
    Reads (collection spacing level opening closing texts) v := by
  have htext : ∃ s : List Char,
      (collection spacing level opening closing texts).toList = o :: s ∧
      ∀ (rest : List Char) (fuel room : Nat), s.length ≤ fuel → s.length ≤ room →
        read (fuel + 1) (room + 1) (o :: (s ++ rest)) = .ok (v, rest) := by
    by_cases hne : texts = []
    · refine ⟨[c], by simp [collection, hne, hopening, hclosing],
        fun rest fuel room _ _ => hnone hne rest fuel room⟩
    · refine ⟨_, by rw [toList_collection spacing level opening closing hne, hopening,
        hclosing, List.singleton_append], ?_⟩
      intro rest fuel room hfuel hroom
      rw [List.append_assoc, List.append_assoc, List.singleton_append]
      simp only [List.length_append, List.length_singleton] at hfuel hroom
      exact hsome hne rest fuel room (by omega) (by omega)
  obtain ⟨s, hs, hread⟩ := htext
  refine ⟨⟨o, s, hs, ho⟩, fun rest _ fuel room hfuel hroom => ?_⟩
  rw [hs, List.length_cons] at hfuel hroom
  obtain ⟨fuel, rfl⟩ := Nat.exists_eq_add_of_lt (Nat.zero_lt_of_lt hfuel)
  obtain ⟨room, rfl⟩ := Nat.exists_eq_add_of_lt (Nat.zero_lt_of_lt hroom)
  rw [hs, List.cons_append, Nat.zero_add, Nat.zero_add]
  exact hread rest fuel room (by omega) (by omega)

theorem read_list
    {s r : List Char} {fuel room : Nat}
    (hs : skipGap s = r)
    (hopen : ∀ c ∈ r.head?, c ≠ ']') :
    read (fuel + 1) (room + 1) ('[' :: s) =
      (readItems fuel room r).map fun (xs, rest) => (.list xs, rest) := by
  subst hs
  rw [read, if_neg (Nat.succ_ne_zero room)]
  split
  · rename_i heq
    exact absurd rfl (hopen ']' (by rw [heq]; rfl))
  · rfl

theorem read_map
    {s r : List Char} {fuel room : Nat}
    (hs : skipGap s = r)
    (hopen : ∀ c ∈ r.head?, c ≠ '\x7d') :
    read (fuel + 1) (room + 1) ('\x7b' :: s) =
      (readEntries fuel room r).map fun (es, rest) => (Value.ofEntries es, rest) := by
  subst hs
  rw [read, if_neg (Nat.succ_ne_zero room)]
  split
  · rename_i heq
    exact absurd rfl (hopen '\x7d' (by rw [heq]; rfl))
  · rfl

/-- The text of a list is read if the texts of its members are. -/
theorem reads_list
    (hspacing : spacing.IsSound)
    (htexts : List.Forall₂ Reads texts vs) (level : Nat) :
    Reads (collection spacing level "[" "]" texts) (.list vs) := by
  obtain ⟨gap, hbetween⟩ := hspacing.between level
  refine reads_collection (o := '[') (c := ']') rfl rfl (by decide) ?_ ?_
  · rintro rfl rest fuel room
    cases htexts
    rfl
  · intro hne rest fuel room parts hfuel hroom
    have hread :=
      readItems_joined hbetween (hspacing.outer level) htexts hne rest hfuel hroom
    cases htexts with
    | nil => exact absurd rfl hne
    | @cons text v texts vs htext htexts =>
        rw [read_list
          (skipGap_joined (hspacing.inner level) htext.begins_noGap (']' :: rest)), hread]
        · rfl
        obtain ⟨s, hs⟩ :=
          exists_joined_cons (spacing.between level).toList
            (spacing.outer level).toList text texts
        obtain ⟨c, cs, htext, -, hc⟩ := htext.begins
        rw [hs, htext]
        rintro d ⟨⟩
        exact hc

/-- The text of a map is read if the texts of its entries are. -/
theorem reads_map
    (hspacing : spacing.IsSound)
    (htexts : List.Forall₂ ReadsEntry texts entries) (level : Nat) :
    Reads (collection spacing level "\x7b" "\x7d" texts) (Value.ofEntries entries) := by
  obtain ⟨gap, hbetween⟩ := hspacing.between level
  refine reads_collection (o := '\x7b') (c := '\x7d') rfl rfl (by decide) ?_ ?_
  · rintro rfl rest fuel room
    cases htexts
    rfl
  · intro hne rest fuel room parts hfuel hroom
    have hread :=
      readEntries_joined hbetween (hspacing.outer level) htexts hne rest hfuel hroom
    cases htexts with
    | nil => exact absurd rfl hne
    | @cons text e texts es hentry htexts =>
        rw [read_map
          (skipGap_joined (hspacing.inner level) hentry.begins_noGap ('\x7d' :: rest)),
          hread]
        · rfl
        obtain ⟨s, hs⟩ :=
          exists_joined_cons (spacing.between level).toList
            (spacing.outer level).toList text texts
        obtain ⟨key, t, v, -, rfl, -⟩ := hentry
        rw [hs, List.append_assoc, toList_entry_append]
        rintro d ⟨⟩
        decide

end Values

section Written

mutual

/-- A value that is written so that it can be read back as it is. -/
def IsPlain : Value → Prop
  | .null => True
  | .bool _ => True
  | .int i => FewDigits i
  | .text _ => True
  | .list xs => ArePlain xs
  | .map es => ArePlainEntries es ∧ (textKeys es).Nodup
  | _ => False

def ArePlain : List Value → Prop
  | [] => True
  | x :: xs => IsPlain x ∧ ArePlain xs

/-- Entries whose keys are texts. -/
def ArePlainEntries : List (Value × Value) → Prop
  | [] => True
  | (k, v) :: r => (∃ s : String, k = .text s) ∧ IsPlain v ∧ ArePlainEntries r

end

theorem arePlainEntries_iff
    {es : List (Value × Value)} :
    ArePlainEntries es ↔ ∀ e ∈ es, (∃ s : String, e.1 = .text s) ∧ IsPlain e.2 := by
  induction es with
  | nil => simp [ArePlainEntries]
  | cons e es ih => rw [ArePlainEntries, ih, List.forall_mem_cons, and_assoc]

mutual

/-- The text of a plain value is read as the value. -/
theorem reads_write
    {spacing : Spacing}
    (hspacing : spacing.IsSound) :
    ∀ (v : Value) (level : Nat), IsPlain v → Reads (write spacing level v) v
  | .null, _, _ => reads_null
  | .bool b, _, _ => reads_bool b
  | .int _, _, h => reads_int h
  | .text s, _, _ => reads_quote s
  | .list xs, level, h =>
      reads_list hspacing (reads_writeItems hspacing xs (level + 1) h) level
  | .map es, level, h => by
      have hread :=
        reads_map hspacing (reads_writeEntries hspacing es (level + 1) h.1) level
      rwa [ofEntries_of_nodup h.2 fun e he =>
        (arePlainEntries_iff.mp h.1 e he).1] at hread

theorem reads_writeItems
    {spacing : Spacing}
    (hspacing : spacing.IsSound) :
    ∀ (xs : List Value) (level : Nat),
      ArePlain xs → List.Forall₂ Reads (writeItems spacing level xs) xs
  | [], _, _ => .nil
  | x :: xs, level, h =>
      .cons (reads_write hspacing x level h.1) (reads_writeItems hspacing xs level h.2)

theorem reads_writeEntries
    {spacing : Spacing}
    (hspacing : spacing.IsSound) :
    ∀ (es : List (Value × Value)) (level : Nat), ArePlainEntries es →
      List.Forall₂ ReadsEntry (writeEntries spacing level es) es
  | [], _, _ => .nil
  | (_, v) :: es, level, h => by
      obtain ⟨⟨s, rfl⟩, hv, hes⟩ := h
      exact .cons ⟨s, _, v, rfl, rfl, reads_write hspacing v level hv⟩
        (reads_writeEntries hspacing es level hes)

end

end Written

section OneLine

/-- A text of printable ASCII characters. -/
def IsPrintable (text : String) : Prop :=
  ∀ c ∈ text.toList, isPrintableAscii c = true

theorem IsPrintable.append
    {s t : String}
    (hs : IsPrintable s)
    (ht : IsPrintable t) :
    IsPrintable (s ++ t) := by
  intro c hc
  rw [String.toList_append, List.mem_append] at hc
  exact hc.elim (hs c) (ht c)

theorem isPrintable_intercalate
    {between : String} {texts : List String}
    (hbetween : IsPrintable between)
    (htexts : ∀ text ∈ texts, IsPrintable text) :
    IsPrintable (between.intercalate texts) := by
  induction texts with
  | nil => simp [IsPrintable]
  | cons text texts ih =>
      have htext := htexts text List.mem_cons_self
      have hrest := ih fun t ht => htexts t (List.mem_cons_of_mem _ ht)
      cases texts with
      | nil => rwa [String.intercalate_singleton]
      | cons next texts =>
          rw [String.intercalate_cons_cons]
          exact (htext.append hbetween).append hrest

theorem isPrintable_collection
    {level : Nat} {opening closing : String} {texts : List String}
    (hopening : IsPrintable opening)
    (hclosing : IsPrintable closing)
    (htexts : ∀ text ∈ texts, IsPrintable text) :
    IsPrintable (collection oneLine level opening closing texts) := by
  have hempty : IsPrintable "" := by simp [IsPrintable]
  have hbetween : IsPrintable ", " := by simp [IsPrintable, isPrintableAscii]
  unfold collection
  split
  · exact hopening.append hclosing
  · exact (((hopening.append hempty).append
      (isPrintable_intercalate hbetween htexts)).append hempty).append hclosing

theorem isPrintable_quote
    (s : String) :
    IsPrintable (quote s) :=
  fun _ => isPrintableAscii_of_mem_quote

theorem isPrintable_int
    (i : Int) :
    IsPrintable (toString i) := by
  intro c hc
  have hdigit : ∀ d ∈ Nat.toDigits 10 i.natAbs, isPrintableAscii d = true := by
    intro d hd
    have hascii := Text.isAsciiDigit_of_mem_toDigits hd
    simp only [Text.isAsciiDigit, Bool.and_eq_true, decide_eq_true_eq] at hascii
    simp only [isPrintableAscii, Bool.and_eq_true, decide_eq_true_eq]
    omega
  rw [toList_toString_int, signed] at hc
  split at hc
  · rcases List.mem_cons.mp hc with rfl | hc
    · decide
    · exact hdigit c hc
  · exact hdigit c hc

mutual

/-- What is written on one line for a plain value is printable ASCII. -/
theorem isPrintable_write :
    ∀ (v : Value) (level : Nat), IsPlain v → IsPrintable (write oneLine level v)
  | .null, _, _ => by simp [write, IsPrintable, isPrintableAscii]
  | .bool b, _, _ => by cases b <;> simp [write, IsPrintable, isPrintableAscii]
  | .int i, _, _ => isPrintable_int i
  | .text s, _, _ => isPrintable_quote s
  | .list xs, level, h =>
      isPrintable_collection (by simp [IsPrintable, isPrintableAscii])
        (by simp [IsPrintable, isPrintableAscii])
        (isPrintable_writeItems xs (level + 1) h)
  | .map es, level, h =>
      isPrintable_collection (by simp [IsPrintable, isPrintableAscii])
        (by simp [IsPrintable, isPrintableAscii])
        (isPrintable_writeEntries es (level + 1) h.1)

theorem isPrintable_writeItems :
    ∀ (xs : List Value) (level : Nat), ArePlain xs → ∀ text ∈ writeItems oneLine level xs,
      IsPrintable text
  | [], _, _ => by simp [writeItems]
  | x :: xs, level, h =>
      List.forall_mem_cons.mpr ⟨isPrintable_write x level h.1,
        isPrintable_writeItems xs level h.2⟩

theorem isPrintable_writeEntries :
    ∀ (es : List (Value × Value)) (level : Nat), ArePlainEntries es →
      ∀ text ∈ writeEntries oneLine level es, IsPrintable text
  | [], _, _ => by simp [writeEntries]
  | (k, v) :: es, level, h =>
      List.forall_mem_cons.mpr
        ⟨((isPrintable_quote _).append (by simp [IsPrintable, isPrintableAscii])).append
          (isPrintable_write v level h.2.1),
          isPrintable_writeEntries es level h.2.2⟩

end

end OneLine

end Json

/-- A text that is read as a value is read as a whole, with blanks behind it. -/
theorem Json.Reads.ofJson?
    {text behind : String} {v : Value}
    (h : Json.Reads text v)
    (hbehind : ∀ c ∈ behind.toList, Json.isGap c = true) :
    Value.ofJson? (text ++ behind) = some v := by
  have hstart : Json.skipGap (text.toList ++ behind.toList) =
      text.toList ++ behind.toList :=
    h.skipGap (fun c hc => absurd hc List.not_mem_nil) behind.toList
  have hends : Json.EndsNumber behind.toList := by
    cases hchars : behind.toList with
    | nil => rintro c ⟨⟩
    | cons c cs =>
        exact Json.endsNumber_cons (Or.inl (hbehind c (hchars ▸ List.mem_cons_self)))
  have hread :=
    h.read behind.toList hends ((text.toList ++ behind.toList).length + 1)
      (text.toList ++ behind.toList).length
    (by rw [List.length_append]; omega) (by rw [List.length_append]; omega)
  have hend : Json.skipGap behind.toList = [] := List.dropWhile_eq_nil_iff.mpr hbehind
  simp only [Value.ofJson?, readJson, String.toList_append, hstart, hread, bind,
    Except.bind, hend, List.isEmpty_nil, if_true]
  rfl

/-- A plain value is read back, whether it is written on one line or on many. -/
theorem ofJson?_toJson
    {v : Value}
    (h : Json.IsPlain v) :
    ofJson? v.toJson = some v ∧ ofJson? v.toJsonLines = some v := by
  have hnothing : ∀ c ∈ "".toList, Json.isGap c = true := by simp
  have hone := (Json.reads_write Json.oneLine_isSound v 0 h).ofJson? hnothing
  have hmany := (Json.reads_write Json.manyLines_isSound v 0 h).ofJson? hnothing
  rw [String.append_empty] at hone hmany
  exact ⟨hone, hmany⟩

end Value
end HdlLint
