import HdlLint.Yaml.Token.Scalar

/-!
# Cutting a document into tokens

Indentation opens and closes blocks, and a colon may show that something read before was a
key. Therefore every place at which a key could have begun is remembered until the key is
confirmed, until its line ends, or until it is too long.

`Token.ofText` gives all tokens, with the fault that ended the reading if there was one.
-/

namespace HdlLint.Yaml

/-- A place at which a key may have begun: the number of its first token, its position,
and whether it must be a key because its block can hold nothing else there. -/
structure KeyPlace where
  token : Nat
  required : Bool
  index : Nat
  line : Nat
  column : Nat
  deriving Repr

/-- The state of reading tokens. -/
structure Lexer where
  place : Cursor
  tokens : Array Token
  /-- How many brackets and braces are open. -/
  depth : Nat
  /-- The column of the innermost block, and those of the blocks around it. -/
  indent : Int
  outer : List Int
  /-- Whether a key may begin here. -/
  allowKey : Bool
  /-- The places at which keys may have begun, by depth of brackets. -/
  keys : List (Nat × KeyPlace)
  deriving Repr

namespace Lexer

/-- The state at the beginning of a text. -/
def start (s : List Char) : Lexer :=
  ⟨.start s, #[], 0, -1, [], true, []⟩

/-- The state with one more token. -/
def push (s : Lexer) (t : Token) : Lexer :=
  { s with tokens := s.tokens.push t }

/-- The state with a token put before the one of a number. -/
def insert (s : Lexer) (i : Nat) (t : Token) : Lexer :=
  { s with tokens :=
      if h : i ≤ s.tokens.size then s.tokens.insertIdx i t h else s.tokens.push t }

def moveTo (s : Lexer) (c : Cursor) : Lexer :=
  { s with place := c }

/-- The longest distance between the beginning of a key and its colon. -/
def maxKeyLength : Nat := 1024

/-- Forgets places at which no key can have begun any more. -/
def dropStaleKeys (s : Lexer) : Except DocumentFault Lexer :=
  let stale := fun (k : KeyPlace) =>
    k.line ≠ s.place.line || maxKeyLength < s.place.index - k.index
  if s.keys.any fun k => stale k.2 && k.2.required then .error .malformed
  else .ok { s with keys := s.keys.filter fun k => !stale k.2 }

/-- Forgets the place at this depth at which a key may have begun. -/
def dropKey (s : Lexer) : Except DocumentFault Lexer :=
  match s.keys.lookup s.depth with
  | some k =>
    if k.required then .error .malformed
    else .ok { s with keys := s.keys.filter fun p => p.1 ≠ s.depth }
  | none => .ok s

/-- Remembers that a key may begin here. -/
def noteKey (s : Lexer) : Except DocumentFault Lexer :=
  if s.allowKey then do
    let s ← s.dropKey
    let c := s.place
    let required := s.depth = 0 && s.indent = c.column
    pure { s with keys :=
      (s.depth, ⟨s.tokens.size, required, c.index, c.line, c.column⟩) :: s.keys }
  else .ok s

/-- Closes the blocks that begin right of a column. -/
def closeBlocks (column : Int) : Nat → Lexer → Lexer
  | 0, s => s
  | fuel + 1, s =>
    if column < s.indent then
      match s.outer with
      | i :: r =>
        closeBlocks column fuel ({ s with indent := i, outer := r }.push .blockEnd)
      | [] => s
    else s

/-- Closes the blocks that begin right of a column, unless brackets are open. -/
def unwind (s : Lexer) (column : Int) : Lexer :=
  if s.depth = 0 then closeBlocks column s.outer.length s else s

/-- Opens a block at a column, if the innermost block begins left of it. -/
def openBlock (s : Lexer) (column : Nat) (number : Nat) (t : Token) : Lexer :=
  if s.indent < column then
    { s with indent := column, outer := s.indent :: s.outer }.insert number t
  else s

/-- Opens a block here, where one may begin. -/
def beginBlock (s : Lexer) (t : Token) : Except DocumentFault Lexer :=
  if s.depth ≠ 0 then .ok s
  else if s.allowKey then .ok (s.openBlock s.place.column s.tokens.size t)
  else .error .malformed

/-- Skips blanks, comments and line ends. Outside brackets a key may begin behind a line
end. -/
def skipGap : Nat → Lexer → Lexer
  | 0, s => s
  | fuel + 1, s =>
    let c := s.place.skipSpaces
    let c := if c.peek = '#' then c.takeLine.2 else c
    if isBreak c.peek then
      skipGap fuel { s with place := c.takeBreak.2, allowKey := s.allowKey || s.depth = 0 }
    else s.moveTo c

/-- Skips the mark at the beginning of the text, blanks, comments and line ends. -/
def skipToToken (s : Lexer) : Lexer :=
  let c := s.place
  let s := if c.index = 0 && c.peek = byteOrderMark then s.moveTo c.next else s
  skipGap (s.place.rest.length + 1) s

/-- A token at the beginning of a line that ends all blocks. -/
def takeOuter (s : Lexer) (read : Cursor → Except DocumentFault (Token × Cursor)) :
    Except DocumentFault Lexer := do
  let s ← (s.unwind (-1)).dropKey
  let (t, c) ← read s.place
  pure ({ s with allowKey := false, place := c }.push t)

/-- A token that may begin a key and is followed by none. -/
def takeInner (s : Lexer) (read : Cursor → Except DocumentFault (Token × Cursor)) :
    Except DocumentFault Lexer := do
  let s ← s.noteKey
  let (t, c) ← read s.place
  pure ({ s with allowKey := false, place := c }.push t)

def takeOpening (s : Lexer) (t : Token) : Except DocumentFault Lexer := do
  let s ← s.noteKey
  pure ({ s with depth := s.depth + 1, allowKey := true, place := s.place.next }.push t)

def takeClosing (s : Lexer) (t : Token) : Except DocumentFault Lexer := do
  let s ← s.dropKey
  pure ({ s with depth := s.depth - 1, allowKey := false, place := s.place.next }.push t)

/-- A mark of one character behind which a key may begin or not. -/
def takeMark (s : Lexer) (allowKey : Bool) (t : Token) : Except DocumentFault Lexer := do
  let s ← s.dropKey
  pure ({ s with allowKey := allowKey, place := s.place.next }.push t)

/-- The dash of a sequence entry. -/
def takeBlockEntry (s : Lexer) : Except DocumentFault Lexer := do
  (← s.beginBlock .blockSequence).takeMark true .blockEntry

/-- The question mark of a key. -/
def takeKeyMark (s : Lexer) : Except DocumentFault Lexer := do
  (← s.beginBlock .blockMapping).takeMark (s.depth = 0) .key

/-- A colon. It confirms that a key began at the place remembered, if there is one. -/
def takeValueMark (s : Lexer) : Except DocumentFault Lexer :=
  match s.keys.lookup s.depth with
  | some k =>
    let s := { s with keys := s.keys.filter fun p => p.1 ≠ s.depth }
    let s := s.insert k.token .key
    let s := if s.depth = 0 then s.openBlock k.column k.token .blockMapping else s
    .ok ({ s with allowKey := false, place := s.place.next }.push .value)
  | none => do
    (← s.beginBlock .blockMapping).takeMark (s.depth = 0) .value

def takeBlock (s : Lexer) : Except DocumentFault Lexer := do
  let s ← s.dropKey
  let (t, c) ← readBlock s.indent s.place
  pure ({ s with allowKey := true, place := c }.push t)

def takePlain (s : Lexer) : Except DocumentFault Lexer := do
  let s ← s.noteKey
  let (t, c, broken) := readPlain (s.depth ≠ 0) s.indent s.place
  pure ({ s with allowKey := broken, place := c }.push t)

/-- The marks that cannot begin a plain scalar, apart from those that can before some
characters. -/
def reservedMarks : List Char := ",[]#&*!|>'\"%@".toList ++ ['\x7b', '\x7d', '\x60']

/-- Whether a plain scalar begins at a position. -/
def beginsPlain (flow : Bool) (c : Cursor) : Bool :=
  let x := c.peek
  if x = '-' then !isGap (c.peek 1)
  else if x = '?' || x = ':' then !flow && !isGap (c.peek 1)
  else !isGap x && !reservedMarks.contains x

/-- Reads the next token, where there is one. -/
def takeToken (s : Lexer) : Except DocumentFault Lexer :=
  let c := s.place
  let x := c.peek
  let flow := s.depth ≠ 0
  let gapNext := isGap (c.peek 1)
  if x = '%' && c.column = 0 then s.takeOuter readDirective
  else if c.column = 0 && c.atMark '-' then
    s.takeOuter fun c => .ok (.documentStart, c.skip 3)
  else if c.column = 0 && c.atMark '.' then
    s.takeOuter fun c => .ok (.documentEnd, c.skip 3)
  else if x = '[' then s.takeOpening .flowSequence
  else if x = '\x7b' then s.takeOpening .flowMapping
  else if x = ']' then s.takeClosing .flowSequenceEnd
  else if x = '\x7d' then s.takeClosing .flowMappingEnd
  else if x = ',' then s.takeMark true .flowEntry
  else if x = '-' && gapNext then s.takeBlockEntry
  else if x = '?' && (flow || gapNext) then s.takeKeyMark
  else if x = ':' && (flow || gapNext) then s.takeValueMark
  else if x = '*' then s.takeInner fun c => (readAnchor c).map fun (n, c) => (.alias n, c)
  else if x = '&' then
    s.takeInner fun c => (readAnchor c).map fun (n, c) => (.anchor n, c)
  else if x = '!' then s.takeInner fun c => (readTag c).map fun (t, c) => (.tag t, c)
  else if (x = '|' || x = '>') && !flow then s.takeBlock
  else if x = '\x27' || x = '\x22' then s.takeInner readQuoted
  else if beginsPlain flow c then s.takePlain
  else .error .malformed

/-- Reads tokens up to the end of the text. Every token takes at least one character. -/
def run : Nat → Lexer → Array Token × Option DocumentFault
  | 0, s => (s.tokens, none)
  | fuel + 1, s =>
    match s.skipToToken.dropStaleKeys with
    | .error f => (s.tokens, some f)
    | .ok s =>
      let s := s.unwind s.place.column
      if s.place.rest.isEmpty then
        let s := s.unwind (-1)
        match s.dropKey with
        | .error f => (s.tokens, some f)
        | .ok s => (s.tokens, none)
      else match s.takeToken with
        | .error f => (s.tokens, some f)
        | .ok s => run fuel s

end Lexer

/-- The characters that a document may hold. -/
def isDocumentChar (c : Char) : Bool :=
  c = '\t' || c = '\n' || c = '\r' || (0x20 ≤ c.toNat && c.toNat ≤ 0x7E) ||
    c.toNat = 0x85 || (0xA0 ≤ c.toNat && c.toNat ≠ 0xFFFE && c.toNat ≠ 0xFFFF)

/-- The tokens of a text, and the fault behind the last one if they could not all be
read. -/
def Token.ofText (s : List Char) : List Token × Option DocumentFault :=
  if s.all isDocumentChar then
    let (tokens, fault) := Lexer.run (s.length + 1) (.start s)
    (tokens.toList, fault)
  else ([], some .malformed)

end HdlLint.Yaml
