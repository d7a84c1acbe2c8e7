import HdlLint.Text.Digit
import HdlLint.Text.Utf8
import HdlLint.Yaml.Cursor
import HdlLint.Yaml.Token

/-!
# Names, tags and directives

The tokens of a document that are made of letters and marks on one line.
-/

namespace HdlLint.Yaml

/-- The characters of names: ASCII letters and digits, the dash and the underscore. -/
def isNameChar (c : Char) : Bool :=
  Text.isAsciiLetter c || Text.isAsciiDigit c || c = '-' || c = '_'

/-- Reads a name, which must not be empty. -/
def readName (c : Cursor) : Except DocumentFault (String × Cursor) :=
  match c.takeWhile isNameChar with
  | ([], _) => .error .malformed
  | (run, c) => .ok (String.ofList run, c)

/-- The marks that may follow the name of an anchor, besides a gap. -/
def anchorFollowers : List Char := ['?', ':', ',', ']', '\x7d', '%', '@', '\x60']

/-- Reads the name of an anchor or alias behind its mark. -/
def readAnchor (c : Cursor) : Except DocumentFault (String × Cursor) := do
  let (name, c) ← readName c.next
  if isGap c.peek || anchorFollowers.contains c.peek then pure (name, c)
  else throw .malformed

/-- The marks that tags may hold, besides letters and digits. -/
def uriMarks : List Char := "-;/?:@&=+$,_.!~*'()[]".toList

/-- The characters of tags that stand for themselves. -/
def isUriChar (c : Char) : Bool :=
  Text.isAsciiLetter c || Text.isAsciiDigit c || uriMarks.contains c

/-- The value of a hexadecimal digit. -/
def hexValue? (c : Char) : Option Nat :=
  (Text.radixDigit? c).filter (· < 16)

/-- Reads bytes written as percent signs with two hexadecimal digits. -/
def takeEscapedBytes : List Char → Except DocumentFault (List UInt8 × Nat)
  | '%' :: a :: b :: r =>
    match hexValue? a, hexValue? b with
    | some x, some y =>
        (takeEscapedBytes r).map fun (bytes, n) =>
          ((x * 16 + y).toUInt8 :: bytes, n + 3)
    | _, _ => .error .malformed
  | '%' :: _ => .error .malformed
  | _ => .ok ([], 0)

/-- Reads the characters of a tag: runs of plain characters and of escaped bytes. -/
def readUriParts : Nat → List Char → Cursor → Except DocumentFault (List Char × Cursor)
  | 0, read, c => .ok (read, c)
  | fuel + 1, read, c => do
    let (run, c) := c.takeWhile isUriChar
    let read := read ++ run
    if c.peek = '%' then
      let (bytes, n) ← takeEscapedBytes c.rest
      match Text.Utf8.decode bytes with
      | .ok s => readUriParts fuel (read ++ s.toList) (c.skip n)
      | .error _ => throw .malformed
    else pure (read, c)

/-- Reads a tag or the beginning of one, which must not be empty. -/
def readUri (c : Cursor) : Except DocumentFault (String × Cursor) := do
  match ← readUriParts (c.rest.length + 1) [] c with
  | ([], _) => throw .malformed
  | (s, c) => pure (String.ofList s, c)

/-- Reads a shorthand for the beginning of tags: an exclamation mark, or a name between
two. -/
def readHandle (c : Cursor) : Except DocumentFault (String × Cursor) :=
  if c.peek ≠ '!' then .error .malformed
  else if c.peek 1 = ' ' then .ok ("!", c.next)
  else
    let (name, d) := c.next.takeWhile isNameChar
    if d.peek = '!' then .ok (String.ofList ('!' :: name ++ ['!']), d.next)
    else .error .malformed

/-- Whether a second exclamation mark ends a shorthand before the tag ends. -/
def hasHandle (c : Cursor) : Bool :=
  (c.rest.drop 1).any (· = '!') &&
    ((c.rest.drop 1).takeWhile (· ≠ '!')).all fun x => !isSpaceOrEnd x

def readTag (c : Cursor) : Except DocumentFault (TagText × Cursor) := do
  let (tag, c) ←
    if c.peek 1 = '<' then do
      let (suffix, c) ← readUri (c.skip 2)
      if c.peek = '>' then pure ((⟨none, suffix⟩ : TagText), c.next) else throw .malformed
    else if isGap (c.peek 1) then pure ((⟨none, "!"⟩ : TagText), c.next)
    else do
      let (handle, c) ← if hasHandle c then readHandle c else pure ("!", c.next)
      let (suffix, c) ← readUri c
      pure ((⟨some handle, suffix⟩ : TagText), c)
  if isSpaceOrEnd c.peek then pure (tag, c) else throw .malformed

/-- Reads a decimal number of a directive. -/
def readNumber (c : Cursor) : Except DocumentFault (Nat × Cursor) :=
  match c.takeWhile Text.isAsciiDigit with
  | ([], _) => .error .malformed
  | (run, c) => .ok (Text.ofDigits 10 (run.map fun d => d.toNat - 0x30), c)

/-- Skips blanks and a comment up to the end of the line, where nothing else may stand,
and the end itself. -/
def skipRestOfLine (c : Cursor) : Except DocumentFault Cursor :=
  let c := c.skipSpaces
  let c := if c.peek = '#' then c.takeLine.2 else c
  if isLineEnd c.peek then .ok c.takeBreak.2 else .error .malformed

def readDirective (c : Cursor) : Except DocumentFault (Token × Cursor) := do
  let (name, c) ← readName c.next
  if !isSpaceOrEnd c.peek then throw .malformed
  let (token, c) ←
    if name = "YAML" then do
      let (major, c) ← readNumber c.skipSpaces
      if c.peek ≠ '.' then throw .malformed
      let (_, c) ← readNumber c.next
      if isSpaceOrEnd c.peek then pure (Token.versionDirective major, c)
      else throw .malformed
    else if name = "TAG" then do
      let (handle, c) ← readHandle c.skipSpaces
      if c.peek ≠ ' ' then throw .malformed
      let (start, c) ← readUri c.skipSpaces
      if isSpaceOrEnd c.peek then pure (Token.tagDirective handle start, c)
      else throw .malformed
    else pure (Token.otherDirective, c.takeLine.2)
  pure (token, ← skipRestOfLine c)

end HdlLint.Yaml
