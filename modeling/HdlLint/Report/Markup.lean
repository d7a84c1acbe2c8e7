import HdlLint.Report.Action
import HdlLint.Report.Emoji
import HdlLint.Report.Style
import HdlLint.Report.StyledText

/-!
# Markup

Texts for the screen may hold tags in square brackets that set a style. Without colours
nothing of a style can be seen, so all that is left of a tag is that it is gone. A tag
begins with a small letter or one of three signs; a slash closes a style, and a backslash
before a bracket takes its meaning away. Behind an equals sign a tag may hold parameters.

`render` gives what is seen of a text and the spans of its styles, or a crash if a tag
closes what is not open, or closes an action whose values cannot be read. The words of
styles are looked at only when a text is shown: `checkStyles` finds those that lead to a
crash.
-/

namespace HdlLint.Report.Markup

/-- A part of a text: plain characters, or what stands between the brackets of a tag. -/
inductive Part where
  | plain (s : List Char)
  | tag (body : List Char)
  deriving Repr, DecidableEq

/-- Whether a character can begin a tag. -/
def beginsTag (c : Char) : Bool :=
  ('a' ≤ c && c ≤ 'z') || c = '#' || c = '/' || c = '@'

/-- Whether a character is no bracket. -/
def isNoBracket (c : Char) : Bool :=
  c ≠ '[' && c ≠ ']'

/-- What stands between an opening bracket and its closing one, and what follows. -/
def tagBody? : List Char → Option (List Char × List Char)
  | [] => none
  | c :: r =>
    if beginsTag c then
      match r.dropWhile isNoBracket with
      | ']' :: rest => some (c :: r.takeWhile isNoBracket, rest)
      | _ => none
    else none

/-- A tag at the beginning of a text: the number of backslashes before it, what is in it,
and what follows. -/
def tagAt? (s : List Char) : Option (Nat × List Char × List Char) :=
  match s.dropWhile (· = '\\') with
  | '[' :: r => (tagBody? r).map fun (body, rest) =>
      ((s.takeWhile (· = '\\')).length, body, rest)
  | _ => none

/-- Dropping characters does not make a text longer. -/
theorem length_dropWhile_le (p : Char → Bool) (s : List Char) :
    (s.dropWhile p).length ≤ s.length :=
  (List.dropWhile_suffix p).length_le

/-- What follows a tag is shorter than what stands behind its opening bracket. -/
theorem tagBody?_length {s body rest : List Char} (h : tagBody? s = some (body, rest)) :
    rest.length < s.length := by
  unfold tagBody? at h
  split at h
  · cases h
  · next c r =>
    split at h
    · split at h
      · next rest' heq =>
        cases h
        have := length_dropWhile_le isNoBracket r
        rw [heq] at this
        simp only [List.length_cons] at this ⊢
        omega
      · cases h
    · cases h

/-- What follows a tag is shorter than the text that begins with it. -/
theorem tagAt?_length {s : List Char} {n : Nat} {body rest : List Char}
    (h : tagAt? s = some (n, body, rest)) :
    rest.length < s.length := by
  unfold tagAt? at h
  split at h
  · next r heq =>
    obtain ⟨⟨b, r'⟩, hb, he⟩ := Option.map_eq_some_iff.1 h
    cases he
    have h1 := tagBody?_length hb
    have h2 := length_dropWhile_le (· = '\\') s
    rw [heq] at h2
    simp only [List.length_cons] at h2
    omega
  · cases h

/-- Plain characters as a part, unless there are none. -/
def plainPart (reversed : List Char) : List Part :=
  if reversed.isEmpty then [] else [.plain reversed.reverse]

/-- A tag behind backslashes: every two of them stand for one, and one that is left over
makes the tag plain. -/
def escapedTag (backslashes : Nat) (body : List Char) : List Part :=
  plainPart (List.replicate (backslashes / 2) '\\') ++
    [if backslashes % 2 = 1 then .plain ('[' :: body ++ [']']) else .tag body]

/-- The parts of a text. The first argument holds the plain characters read so far, in
reverse. -/
def parts (read : List Char) (s : List Char) : List Part :=
  match s with
  | [] => plainPart read
  | c :: r =>
    match _h : tagAt? (c :: r) with
    | some (n, body, rest) => plainPart read ++ escapedTag n body ++ parts [] rest
    | none => parts (c :: read) r
termination_by s.length
decreasing_by
  · exact tagAt?_length _h
  · simp

/-- Plain characters with each bracket behind a backslash in place of the two. -/
def unescape : List Char → List Char
  | '\\' :: '[' :: r => '[' :: unescape r
  | c :: r => c :: unescape r
  | [] => []

/-- Characters that a screen does not show: the bell, the backspace, vertical moves and
the return. -/
def isHidden (c : Char) : Bool :=
  c = '\x07' || c = '\x08' || c = '\x0B' || c = '\x0C' || c = '\r'

/-- What is seen of plain characters. -/
def shown (s : List Char) : List Char :=
  (Emoji.replace (unescape s) none).filter fun c => !isHidden c

/-- A style that is open: its name, what stands behind the name, and where it begins. -/
structure OpenTag where
  name : String
  parameters : Option String
  start : Nat
  deriving Repr, DecidableEq

def OpenTag.words (t : OpenTag) : String :=
  match t.parameters with
  | some parameters => t.name ++ " " ++ parameters
  | none => t.name

/-- The span of a style that has not been closed, up to the end of the text. -/
def OpenTag.openSpan (last : Nat) (t : OpenTag) : Span :=
  ⟨t.start, last, some t.words⟩

/-- What marks the names of actions. -/
def actionMark : Char := '@'

/-- The crash of an action whose values cannot be read. -/
def unreadable (parameters : String) : Crash :=
  .of .markup ("error parsing " ++ Text.quoted parameters)

/-- The span of a style that is closed at a position. An action is no style that has
words. -/
def OpenTag.closedSpan (last : Nat) (t : OpenTag) : Except Crash Span :=
  if t.name.toList.head? = some actionMark then
    match t.parameters with
    | some parameters =>
      if parameters = "" || Action.areReadable parameters then .ok ⟨t.start, last, none⟩
      else .error (unreadable parameters)
    | none => .ok ⟨t.start, last, none⟩
  else .ok ⟨t.start, last, some t.words⟩

/-- The name in a tag: what stands before an equals sign. -/
def tagName (body : List Char) : List Char :=
  body.takeWhile (· ≠ '=')

/-- What stands behind the equals sign in a tag, if there is one. -/
def tagParameters (body : List Char) : Option String :=
  match body.dropWhile (· ≠ '=') with
  | [] => none
  | _ :: r => some (String.ofList r)

/-- The style opened last of a name, and the open styles without it. -/
def closeNamed? (name : String) : List OpenTag → Option (OpenTag × List OpenTag)
  | [] => none
  | t :: r =>
    if t.name = name then some (t, r)
    else (closeNamed? name r).map fun (found, r) => (found, t :: r)

/-- The crash of a tag that closes nothing. -/
def unmatched (body : List Char) : Crash :=
  .of .markup ("closing tag '[" ++ String.ofList body ++ "]' doesn't match any open tag")

/-- The style that a closing tag closes, and those that stay open. -/
def closed (opened : List OpenTag) (body name : List Char) :
    Except Crash (OpenTag × List OpenTag) := do
  let name := Text.trim (String.ofList name)
  if name = "" then
    match opened with
    | [] => throw (unmatched body)
    | t :: r => pure (t, r)
  else
    match closeNamed? (← Style.normalize name) opened with
    | some found => pure found
    | none => throw (unmatched body)

/-- The open styles after a tag at a position, the one opened last on top, and the span of
the style that it closes. -/
def applyTag (position : Nat) (opened : List OpenTag) (body : List Char) :
    Except Crash (List OpenTag × Option Span) := do
  match tagName body with
  | '/' :: name =>
    let (t, opened) ← closed opened body name
    pure (opened, some (← t.closedSpan position))
  | name =>
    pure (⟨← Style.normalize (String.ofList name), tagParameters body, position⟩ :: opened,
      none)

/-- What is seen of parts that begin at a position, under open styles. -/
def renderParts (position : Nat) (opened : List OpenTag) :
    List Part → Except Crash StyledText
  | [] => .ok ⟨[], opened.map (OpenTag.openSpan position)⟩
  | .plain s :: r => do
    let seen := shown s
    let rest ← renderParts (position + seen.length) opened r
    pure ⟨seen ++ rest.chars, rest.spans⟩
  | .tag body :: r => do
    let (opened, span) ← applyTag position opened body
    let rest ← renderParts position opened r
    pure ⟨rest.chars, span.toList ++ rest.spans⟩

/-- What is seen of a text. -/
def render (s : String) : Except Crash StyledText :=
  renderParts 0 [] (parts [] s.toList)

/-- The crash of the words of a span, if they lead to one. Words that name no style are
passed over. -/
def checkStyle (s : Span) : Except Crash Unit :=
  match s.style with
  | some words => (Style.ofText? words).map fun _ => ()
  | none => .ok ()

/-- Checks the words of all spans of lines. -/
def checkStyles (lines : List StyledText) : Except Crash Unit :=
  lines.forM fun l => l.spans.forM checkStyle

end HdlLint.Report.Markup
