import HdlLint.Number.Binary64
import HdlLint.Text.Blank
import HdlLint.Text.Digit
import HdlLint.Text.Integer
import HdlLint.Text.Lines
import HdlLint.Text.WordCharacter

/-!
# Actions

A tag whose name begins with an at sign may say behind an equals sign what is called when
it is clicked: a handler, and in brackets the values that it is given. Nothing is ever
called, but the values have to be literals: numbers, texts, bytes, truth values, nothing,
and tuples, sets and maps of them. `areReadable` tells whether they are.

Reading goes in two steps: the text is cut into tokens, and the tokens are read as one
literal.
-/

namespace HdlLint.Report.Action

/-- A token of a literal. Only what decides whether the literal can be read is kept of its
value. -/
inductive Token where
  | integer (n : Nat)
  | real
  | imaginary
  | text
  | bytes
  | word (name : String)
  | ellipsis
  | mark (c : Char)
  deriving Repr, DecidableEq

/-- Blanks between tokens on a line. -/
def isGap (c : Char) : Bool :=
  c = ' ' || c = '\t' || c = '\x0C'

/-- A character that would go on a number or a name. -/
def isNameCharacter (c : Char) : Bool :=
  0x80 ≤ c.toNat || Text.isAsciiDigit c || Text.isAsciiLetter c || c = '_'

/-- A run of digits of a base with single underscores between them, and what follows. -/
def takeDigits? (base : Nat) (s : List Char) : Option (List Nat × List Char) :=
  let run := s.takeWhile fun c => c = '_' || (Text.radixDigit? c).any (· < base)
  if Text.wellSeparated false run then
    some (run.filterMap Text.radixDigit?, s.drop run.length)
  else none

/-- A run of decimal digits, which may be missing. -/
def takeOptionalDigits? (s : List Char) : Option (List Nat × List Char) :=
  if s.head?.any fun c => c = '_' || Text.isAsciiDigit c then takeDigits? 10 s
  else some ([], s)

/-- The base that a letter behind a zero stands for. -/
def baseOfLetter? (c : Char) : Option Nat :=
  if c = 'x' || c = 'X' then some 16
  else if c = 'o' || c = 'O' then some 8
  else if c = 'b' || c = 'B' then some 2
  else none

/-- A decimal integer. It has no zeros before it, and not too many digits. -/
def decimal? (digits : List Nat) : Option Token :=
  if digits.all (· = 0) then some (.integer 0)
  else if digits.head? = some 0 || Text.maxDigits < digits.length then none
  else some (.integer (Text.ofDigits 10 digits))

/-- An exponent, if there is one, and what follows. -/
def takeExponent? (s : List Char) : Option (Bool × List Char) :=
  match s with
  | c :: r =>
    if c = 'e' || c = 'E' then
      (takeDigits? 10 (match r with
        | '+' :: r => r
        | '-' :: r => r
        | r => r)).map fun (_, r) => (true, r)
    else some (false, s)
  | [] => some (false, [])

/-- A decimal number with an optional fraction and exponent, real or imaginary. -/
def takeDecimal? (s : List Char) : Option (Token × List Char) := do
  let (whole, r) ← takeOptionalDigits? s
  let (point, r) ← match r with
    | '.' :: r => (takeOptionalDigits? r).map fun (_, r) => (true, r)
    | r => some (false, r)
  let (exponent, r) ← takeExponent? r
  match r with
  | 'j' :: r => some (.imaginary, r)
  | 'J' :: r => some (.imaginary, r)
  | r =>
    if point || exponent then some (.real, r) else (decimal? whole).map fun t => (t, r)

/-- A number, which no character of a name may follow. -/
def takeNumber? (s : List Char) : Option (Token × List Char) := do
  let (token, r) ← match s with
    | '0' :: c :: r =>
      match baseOfLetter? c with
      | some base =>
        (takeDigits? base (if r.head? = some '_' then r.tail else r)).map fun (ds, r) =>
          (Token.integer (Text.ofDigits base ds), r)
      | none => takeDecimal? s
    | _ => takeDecimal? s
  if r.head?.any isNameCharacter then none else some (token, r)

/-- What stands between quotes, and what follows. Behind a backslash every character is
taken. Texts between single quotation marks end on their line. -/
def takeQuoted? (quote : Char) (long : Bool) : List Char → Option (List Char × List Char)
  | [] => none
  | ['\\'] => none
  | '\\' :: c :: r => (takeQuoted? quote long r).map fun (body, rest) =>
      ('\\' :: c :: body, rest)
  | c :: r =>
    if c = quote && (!long || [quote, quote].isPrefixOf r) then
      some ([], if long then r.drop 2 else r)
    else if c = '\n' && !long then none
    else (takeQuoted? quote long r).map fun (body, rest) => (c :: body, rest)

/-- Whether a text begins with as many hexadecimal digits. -/
def beginsHex (n : Nat) (s : List Char) : Bool :=
  (s.take n).length = n && (s.take n).all fun c => (Text.radixDigit? c).any (· < 16)

/-- The number of the first eight hexadecimal digits. -/
def codePoint (s : List Char) : Nat :=
  Text.ofDigits 16 ((s.take 8).filterMap Text.radixDigit?)

/-- Whether a text begins with the name of a character in braces. -/
def beginsName (s : List Char) : Bool :=
  match s with
  | '\x7b' :: r =>
    let name := r.takeWhile (· ≠ '\x7d')
    2 ≤ name.length && name.length < r.length &&
      name.all fun c => Text.isAsciiDigit c || Text.isAsciiLetter c || c = ' ' || c = '-'
  | _ => false

/-- Whether all that stands behind backslashes has a meaning. Bytes are written in
ASCII. -/
def wellEscaped (bytes : Bool) : List Char → Bool
  | [] => true
  | '\\' :: c :: r =>
    (if c = 'x' then beginsHex 2 r
      else if bytes then c.toNat < 0x80
      else if c = 'u' then beginsHex 4 r
      else if c = 'U' then beginsHex 8 r && codePoint r ≤ 0x10FFFF
      else if c = 'N' then beginsName r
      else true) && wellEscaped bytes r
  | c :: r => (!bytes || c.toNat < 0x80) && wellEscaped bytes r

/-- What letters before a quote ask for: bytes, and backslashes that have no meaning. -/
def quoteKinds : List (String × Bool × Bool) :=
  [("", false, false), ("u", false, false), ("r", false, true), ("b", true, false),
    ("br", true, true), ("rb", true, true)]

/-- A quoted text or bytes behind letters that ask for a kind. -/
def takeText? (letters quote : List Char) : Option (Token × List Char) := do
  let (bytes, raw) ← quoteKinds.lookup (Text.toLowerAscii (String.ofList letters))
  let (body, rest) ← match quote with
    | q :: r =>
      if [q, q].isPrefixOf r then takeQuoted? q true (r.drop 2) else takeQuoted? q false r
    | [] => none
  let good :=
    if raw then !bytes || body.all fun c => c.toNat < 0x80 else wellEscaped bytes body
  if good then some (if bytes then .bytes else .text, rest) else none

def isQuote (c : Char) : Bool :=
  c = '\x27' || c = '\x22'

/-- A name, or a text behind letters. -/
def takeWord? (s : List Char) : Option (Token × List Char) :=
  let name := s.takeWhile isNameCharacter
  let rest := s.drop name.length
  if rest.head?.any isQuote then takeText? name rest
  else some (.word (String.ofList name), rest)

def marks : List Char := ['(', ')', '\x7b', '\x7d', ',', ':', '+', '-']

/-- A token at the beginning of a text. -/
def takeToken? (s : List Char) : Option (Token × List Char) :=
  match s with
  | '.' :: '.' :: '.' :: r => some (.ellipsis, r)
  | c :: r =>
    if Text.isAsciiDigit c || (c = '.' && r.head?.any Text.isAsciiDigit) then
      takeNumber? s
    else if isQuote c then takeText? [] s
    else if isNameCharacter c then takeWord? s
    else if marks.contains c then some (.mark c, r)
    else none
  | [] => none

/-- The most brackets that can be open. -/
def maxDepth : Nat := 200

/-- The open brackets after a token. -/
def depthAfter? (depth : Nat) : Token → Option Nat
  | .mark c =>
    if c = '(' || c = '\x7b' then (if depth < maxDepth then some (depth + 1) else none)
    else if c = ')' || c = '\x7d' then (if 0 < depth then some (depth - 1) else none)
    else some depth
  | _ => some depth

def dropComment (s : List Char) : List Char :=
  s.dropWhile (· ≠ '\n')

/-- Whether nothing but blanks and comments is left. -/
def isIdle : Nat → List Char → Bool
  | 0, _ => false
  | _, [] => true
  | fuel + 1, c :: r =>
    if isGap c || c = '\n' then isIdle fuel r else c = '#' && isIdle fuel (dropComment r)

/-- The tokens of a text. A line ends the literal unless a bracket is open; before the
first token lines may be empty. Given are the number of open brackets, and whether a token
stands before. -/
def tokens? (depth : Nat) (begun : Bool) : Nat → List Char → Option (List Token)
  | 0, _ => none
  | _, [] => some []
  | fuel + 1, c :: r =>
    if isGap c then tokens? depth begun fuel r
    else if c = '#' then tokens? depth begun fuel (dropComment r)
    else if c = '\\' then
      match r with
      | '\n' :: d :: r => tokens? depth begun fuel (d :: r)
      | _ => none
    else if c = '\n' then
      if 0 < depth then tokens? depth begun fuel r
      else if begun then (if isIdle fuel r then some [] else none)
      else
        let line := r.dropWhile isGap
        if line.length < r.length && !line.head?.any (fun d => d = '\n' || d = '#') then
          none
        else tokens? depth begun fuel line
    else do
      let (token, rest) ← takeToken? (c :: r)
      let depth ← depthAfter? depth token
      pure (token :: (← tokens? depth true fuel rest))

/-- What a part of a literal is, as far as that decides what it can be part of. -/
inductive Part where
  /-- A number without a sign; an integer by its value. -/
  | number (exact : Option Nat)
  /-- A number with a sign. -/
  | signed (exact : Option Nat)
  | imaginary
  /-- Any other value, and whether it can be a key. -/
  | value (isKey : Bool)
  /-- The name that stands before the brackets of an empty set. -/
  | setName
  deriving Repr, DecidableEq

namespace Part

/-- Whether a part is a value. -/
def isValue : Part → Bool
  | setName => false
  | _ => true

/-- Whether a value can be a key. -/
def canBeKey : Part → Bool
  | value isKey => isKey
  | p => p.isValue

def withSign? : Part → Option Part
  | number exact => some (signed exact)
  | imaginary => some (value true)
  | _ => none

/-- Whether a number can be the real part of a sum. -/
def isRealPart : Part → Bool
  | number exact => exact.all fun n => (Binary64.ofInt n).isFinite
  | signed exact => exact.all fun n => (Binary64.ofInt n).isFinite
  | _ => false

/-- The sum of a real part and an imaginary one. -/
def sum? (p q : Part) : Option Part :=
  if p.isRealPart && q = imaginary then some (value true) else none

end Part

/-- The tokens after further texts of the same kind, which are taken together with the
first one. -/
def dropTexts (t : Token) : List Token → List Token
  | [] => []
  | u :: r => if u = t then dropTexts t r else u :: r

mutual

/-- Reads a sum, or a single part. -/
def readSum? : Nat → List Token → Option (Part × List Token)
  | 0, _ => none
  | fuel + 1, ts => do
    let (p, r) ← readSigned? fuel ts
    readTerms? p fuel r

/-- Reads what is added to a part. -/
def readTerms? (p : Part) : Nat → List Token → Option (Part × List Token)
  | 0, _ => none
  | fuel + 1, ts =>
    match ts with
    | .mark c :: r =>
      if c = '+' || c = '-' then do
        let (q, r) ← readSigned? fuel r
        readTerms? (← p.sum? q) fuel r
      else some (p, ts)
    | _ => some (p, ts)

/-- Reads a part that may have a sign. -/
def readSigned? : Nat → List Token → Option (Part × List Token)
  | 0, _ => none
  | fuel + 1, ts =>
    match ts with
    | .mark c :: r =>
      if c = '+' || c = '-' then do
        let (p, r) ← readSigned? fuel r
        pure (← p.withSign?, r)
      else readCall? fuel ts
    | _ => readCall? fuel ts

/-- Reads a part without a sign. The name of the empty set has brackets behind it. -/
def readCall? : Nat → List Token → Option (Part × List Token)
  | 0, _ => none
  | fuel + 1, ts => do
    let (p, r) ← readPart? fuel ts
    match p, r with
    | .setName, .mark '(' :: .mark ')' :: r => pure (.value false, r)
    | p, r => pure (p, r)

/-- Reads a number, a text, a word, or what stands in brackets. -/
def readPart? : Nat → List Token → Option (Part × List Token)
  | 0, _ => none
  | fuel + 1, ts =>
    match ts with
    | .integer n :: r => some (.number (some n), r)
    | .real :: r => some (.number none, r)
    | .imaginary :: r => some (.imaginary, r)
    | .text :: r => some (.value true, dropTexts .text r)
    | .bytes :: r => some (.value true, dropTexts .bytes r)
    | .ellipsis :: r => some (.value true, r)
    | .word name :: r =>
      if ["None", "True", "False"].contains name then some (.value true, r)
      else if name = "set" then some (.setName, r)
      else none
    | .mark '(' :: .mark ')' :: r => some (.value true, r)
    | .mark '(' :: r => do
      let (p, r) ← readSum? fuel r
      match r with
      | .mark ')' :: r => pure (p, r)
      | _ =>
        let (areKeys, r) ← readMembers? ')' fuel r
        if p.isValue then pure (.value (p.canBeKey && areKeys), r) else none
    | .mark '\x7b' :: .mark '\x7d' :: r => some (.value false, r)
    | .mark '\x7b' :: r => do
      let (p, rest) ← readSum? fuel r
      if !p.canBeKey then none
      else match rest with
        | .mark ':' :: rest =>
          let (v, rest) ← readSum? fuel rest
          if v.isValue then pure (.value false, ← readEntries? fuel rest) else none
        | _ =>
          let (areKeys, rest) ← readMembers? '\x7d' fuel rest
          if areKeys then pure (.value false, rest) else none
    | _ => none

/-- Reads members behind commas up to the closing bracket, and tells whether all can be
keys. -/
def readMembers? (close : Char) : Nat → List Token → Option (Bool × List Token)
  | 0, _ => none
  | fuel + 1, ts =>
    match ts with
    | .mark ',' :: .mark c :: r =>
      if c = close then some (true, r) else readMember? close fuel (.mark c :: r)
    | .mark ',' :: r => readMember? close fuel r
    | .mark c :: r => if c = close then some (true, r) else none
    | _ => none

/-- Reads a member and those behind it. -/
def readMember? (close : Char) : Nat → List Token → Option (Bool × List Token)
  | 0, _ => none
  | fuel + 1, ts => do
    let (p, r) ← readSum? fuel ts
    let (areKeys, r) ← readMembers? close fuel r
    if p.isValue then pure (p.canBeKey && areKeys, r) else none

/-- Reads entries behind commas up to the closing brace. -/
def readEntries? : Nat → List Token → Option (List Token)
  | 0, _ => none
  | fuel + 1, ts =>
    match ts with
    | .mark '\x7d' :: r => some r
    | .mark ',' :: .mark '\x7d' :: r => some r
    | .mark ',' :: r => do
      let (p, r) ← readSum? fuel r
      match r with
      | .mark ':' :: r =>
        let (v, r) ← readSum? fuel r
        if p.canBeKey && v.isValue then readEntries? fuel r else none
      | _ => none
    | _ => none

end

/-- Whether a text is a literal. Commas outside of brackets make a tuple. -/
def isLiteral (s : List Char) : Bool :=
  let s := Text.unifyLineEnds s
  match tokens? 0 false (s.length + 1) s with
  | none => false
  | some [] => false
  | some ts =>
    match readPart? (8 * (ts.length + 3)) (.mark '(' :: ts ++ [.mark ')']) with
    | some (p, []) => p.isValue
    | _ => false

/-- The values that a handler is given: what stands in brackets behind its name. A name
alone is given nothing, and what has another form is all values. -/
def valuesOf (s : List Char) : List Char :=
  let name := s.takeWhile fun c => c = '.' || Text.isWordCharacter c
  let rest := s.drop name.length
  if rest.isEmpty then ['(', ')']
  else if rest.head? = some '(' && rest.getLast? = some ')' && !rest.contains '\n' then
    rest
  else s

/-- Whether the values of an action can be read. -/
def areReadable (parameters : String) : Bool :=
  isLiteral (valuesOf (Text.stripWhile Text.isBlank parameters.toList))

end HdlLint.Report.Action
