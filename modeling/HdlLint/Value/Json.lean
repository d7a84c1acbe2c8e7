import HdlLint.Number.Decimal
import HdlLint.Text.Digit
import HdlLint.Value.Basic

/-!
# JSON texts

`Value.toJson` writes a value on one line, with a space behind commas and colons and every
character outside printable ASCII escaped. `Value.toJsonLines` writes one entry a line,
indented by two spaces a level.

`Value.readJson` reads a text whose collections stand in one another only so deep as there
is room for, and `Value.ofJson?` one in which they stand as deep as they like. Both also
take the words for infinity and the undefined number, and of several entries with one key
the last one. An escape of one half of a pair without the other stands for no character;
since a text holds characters only, U+FFFD is read in its place.
-/

namespace HdlLint.Value

namespace Json

/-- A UTF-16 unit as an escape of four digits. -/
def escapeUnit (n : Nat) : List Char :=
  '\\' :: 'u' :: Text.hexDigits 4 n

/-- A character as it stands inside a JSON text. -/
def escapeChar (c : Char) : List Char :=
  if c = '\x22' then ['\\', '\x22']
  else if c = '\\' then ['\\', '\\']
  else if c = '\n' then ['\\', 'n']
  else if c = '\r' then ['\\', 'r']
  else if c = '\t' then ['\\', 't']
  else if c = '\x08' then ['\\', 'b']
  else if c = '\x0C' then ['\\', 'f']
  else if 0x20 ≤ c.toNat && c.toNat ≤ 0x7E then [c]
  else if c.toNat < 0x10000 then escapeUnit c.toNat
  else
    let n := c.toNat - 0x10000
    escapeUnit (0xD800 + n / 0x400) ++ escapeUnit (0xDC00 + n % 0x400)

/-- A text as a JSON string. -/
def quote (s : String) : String :=
  String.ofList ('\x22' :: s.toList.flatMap escapeChar ++ ['\x22'])

/-- A value that is no text as a key: numbers and words are written as texts. -/
def keyText : Value → String
  | .text s => s
  | .null => "null"
  | .bool b => if b then "true" else "false"
  | .int i => toString i
  | .real x => x.render Binary64.documentLayout
  | _ => ""

/-- How the parts of a collection are set apart: what stands behind its opening mark and
before its closing one, and between two parts. -/
structure Spacing where
  inner : Nat → String
  outer : Nat → String
  between : Nat → String

def oneLine : Spacing := ⟨fun _ => "", fun _ => "", fun _ => ", "⟩

/-- A line end and two spaces a level. -/
def lineEnd (level : Nat) : String :=
  String.ofList ('\n' :: List.replicate (2 * level) ' ')

def manyLines : Spacing :=
  ⟨fun level => lineEnd (level + 1), lineEnd, fun level => "," ++ lineEnd (level + 1)⟩

/-- The parts of a collection between its marks. -/
def collection (spacing : Spacing) (level : Nat) (opening closing : String)
    (parts : List String) : String :=
  if parts.isEmpty then opening ++ closing
  else
    opening ++ spacing.inner level ++ (spacing.between level).intercalate parts ++
      spacing.outer level ++ closing

mutual

/-- A value as a JSON text at a level of nesting. -/
def write (spacing : Spacing) (level : Nat) : Value → String
  | .null => "null"
  | .bool b => if b then "true" else "false"
  | .int i => toString i
  | .real x => x.render Binary64.documentLayout
  | .text s => quote s
  | .list xs => collection spacing level "[" "]" (writeItems spacing (level + 1) xs)
  | .tuple xs => collection spacing level "[" "]" (writeItems spacing (level + 1) xs)
  | .map es =>
      collection spacing level "\x7b" "\x7d" (writeEntries spacing (level + 1) es)
  | .bytes _ => "null"
  | .date _ => "null"
  | .time _ => "null"
  | .set _ => "null"
  | .cycle _ _ => "null"
  | .back _ => "null"

def writeItems (spacing : Spacing) (level : Nat) : List Value → List String
  | [] => []
  | x :: xs => write spacing level x :: writeItems spacing level xs

def writeEntries (spacing : Spacing) (level : Nat) : List (Value × Value) → List String
  | [] => []
  | (k, v) :: r =>
    (quote (keyText k) ++ ": " ++ write spacing level v) :: writeEntries spacing level r

end

/-- The blanks between the parts of a JSON text. -/
def isGap (c : Char) : Bool :=
  c = ' ' || c = '\t' || c = '\n' || c = '\r'

/-- What follows the blanks at the beginning. -/
def skipGap (s : List Char) : List Char :=
  s.dropWhile isGap

/-- What follows a word at the beginning. -/
def afterWord? (word : String) (s : List Char) : Option (List Char) :=
  if word.toList.isPrefixOf s then some (s.drop word.length) else none

/-- The UTF-16 unit written in four hexadecimal digits. -/
def unit? (s : List Char) : Option (Nat × List Char) :=
  let digits := (s.take 4).filterMap fun c => (Text.radixDigit? c).filter (· < 16)
  if digits.length = 4 then some (Text.ofDigits 16 digits, s.drop 4) else none

/-- The unit of a second escape that completes a pair. -/
def lowUnit? : List Char → Option (Nat × List Char)
  | '\\' :: 'u' :: r => (unit? r).filter fun u => 0xDC00 ≤ u.1 && u.1 ≤ 0xDFFF
  | _ => none

/-- The characters that letters behind a backslash stand for. -/
def escaped? : Char → Option Char
  | '\x22' => some '\x22'
  | '\\' => some '\\'
  | '/' => some '/'
  | 'b' => some '\x08'
  | 'f' => some '\x0C'
  | 'n' => some '\n'
  | 'r' => some '\r'
  | 't' => some '\t'
  | _ => none

/-- Reads what follows a backslash. Half of a pair alone reads as U+FFFD. -/
def readEscape? : List Char → Option (Char × List Char)
  | 'u' :: r => do
    let (n, r) ← unit? r
    if 0xD800 ≤ n && n ≤ 0xDBFF then
      match lowUnit? r with
      | some (m, r) =>
          pure (Char.ofNat (0x10000 + (n - 0xD800) * 0x400 + (m - 0xDC00)), r)
      | none => pure ('\uFFFD', r)
    else if 0xDC00 ≤ n && n ≤ 0xDFFF then pure ('\uFFFD', r)
    else pure (Char.ofNat n, r)
  | c :: r => (escaped? c).map (·, r)
  | [] => none

/-- Reads the rest of a string up to its closing quote. -/
def readString? : Nat → List Char → List Char → Option (String × List Char)
  | 0, _, _ => none
  | fuel + 1, read, s =>
    match s with
    | [] => none
    | '\x22' :: r => some (String.ofList read.reverse, r)
    | '\\' :: r => do
      let (c, r) ← readEscape? r
      readString? fuel (c :: read) r
    | c :: r => if c.toNat < 0x20 then none else readString? fuel (c :: read) r

def takeDigits (s : List Char) : List Char × List Char :=
  (s.takeWhile Text.isAsciiDigit, s.dropWhile Text.isAsciiDigit)

/-- The digits before the point: a zero alone, or digits that do not begin with one. -/
def takeWhole? : List Char → Option (List Char × List Char)
  | '0' :: r => some (['0'], r)
  | c :: r => if Text.isAsciiDigit c then some (takeDigits (c :: r)) else none
  | [] => none

/-- The point and the digits behind it, if both are there. -/
def takeFraction (s : List Char) : List Char × List Char :=
  match s with
  | '.' :: r =>
    match takeDigits r with
    | ([], _) => ([], s)
    | (ds, rest) => ('.' :: ds, rest)
  | _ => ([], s)

/-- The exponent, if a digit is in it. -/
def takeExponent (s : List Char) : List Char × List Char :=
  match s with
  | e :: r =>
    if e = 'e' || e = 'E' then
      let (sign, r) := match r with
        | '+' :: r' => (['+'], r')
        | '-' :: r' => (['-'], r')
        | _ => ([], r)
      match takeDigits r with
      | ([], _) => ([], s)
      | (ds, rest) => ('e' :: sign ++ ds, rest)
    else ([], s)
  | [] => ([], s)

/-- The most digits an integer may have. -/
def maxDigits : Nat := 4300

/-- Reads a number: an integer unless there is a point or an exponent. -/
def readNumber? (s : List Char) : Option (Value × List Char) := do
  let (negative, r) := match s with
    | '-' :: r => (true, r)
    | _ => (false, s)
  let (whole, r) ← takeWhole? r
  let (fraction, r) := takeFraction r
  let (exponent, r) := takeExponent r
  if fraction.isEmpty && exponent.isEmpty then
    if maxDigits < whole.length then none
    else
      let n := Text.ofDigits 10 (whole.filterMap Text.radixDigit?)
      pure (.int (if negative then -(n : Int) else n), r)
  else
    let x ← Binary64.ofDecimal? Binary64.asciiDigit? negative
      (whole ++ fraction ++ exponent)
    pure (.real x, r)

/-- Reads a value that is no collection and no string. -/
def readPlain? (s : List Char) : Option (Value × List Char) :=
  let words : List (String × Value) :=
    [("null", .null), ("true", .bool true), ("false", .bool false), ("NaN", .real .nan),
      ("Infinity", .real (.infinite false)), ("-Infinity", .real (.infinite true))]
  match words.findSome? fun w => (afterWord? w.1 s).map (w.2, ·) with
  | some found => some found
  | none => readNumber? s

/-- Why a text is not read. -/
inductive ReadFault where
  | malformed
  /-- Collections stand in one another deeper than there is room for. -/
  | tooDeep
  deriving Repr, DecidableEq

/-- What was found, where something has to be. -/
def required {α : Type} : Option α → Except ReadFault α
  | some a => .ok a
  | none => .error .malformed

mutual

/-- Reads a value, if there is room for so many more collections in one another. -/
def read : Nat → Nat → List Char → Except ReadFault (Value × List Char)
  | 0, _, _ => .error .malformed
  | fuel + 1, room, s =>
    match s with
    | '\x22' :: r =>
        (required (readString? (r.length + 1) [] r)).map fun (t, rest) => (.text t, rest)
    | '[' :: r =>
      if room = 0 then .error .tooDeep
      else match skipGap r with
        | ']' :: rest => .ok (.list [], rest)
        | r => (readItems fuel (room - 1) r).map fun (xs, rest) => (.list xs, rest)
    | '\x7b' :: r =>
      if room = 0 then .error .tooDeep
      else match skipGap r with
        | '\x7d' :: rest => .ok (.map [], rest)
        | r => (readEntries fuel (room - 1) r).map fun (es, rest) =>
            (Value.ofEntries es, rest)
    | _ => required (readPlain? s)

/-- Reads the members of a list up to its end. -/
def readItems : Nat → Nat → List Char → Except ReadFault (List Value × List Char)
  | 0, _, _ => .error .malformed
  | fuel + 1, room, s => do
    let (x, r) ← read fuel room s
    match skipGap r with
    | ',' :: r =>
      let (xs, rest) ← readItems fuel room (skipGap r)
      pure (x :: xs, rest)
    | ']' :: rest => pure ([x], rest)
    | _ => throw .malformed

/-- Reads the entries of a map up to its end. -/
def readEntries : Nat → Nat → List Char →
    Except ReadFault (List (Value × Value) × List Char)
  | 0, _, _ => .error .malformed
  | fuel + 1, room, s =>
    match s with
    | '\x22' :: r => do
      let (k, r) ← required (readString? (r.length + 1) [] r)
      match skipGap r with
      | ':' :: r =>
        let (v, r) ← read fuel room (skipGap r)
        match skipGap r with
        | ',' :: r =>
          let (es, rest) ← readEntries fuel room (skipGap r)
          pure ((.text k, v) :: es, rest)
        | '\x7d' :: rest => pure ([(.text k, v)], rest)
        | _ => throw .malformed
      | _ => throw .malformed
    | _ => .error .malformed

end

end Json

def toJson (v : Value) : String :=
  Json.write Json.oneLine 0 v

/-- A value with one entry a line. -/
def toJsonLines (v : Value) : String :=
  Json.write Json.manyLines 0 v

/-- The value of a text in which there is room for so many collections in one another. -/
def readJson (room : Nat) (s : String) : Except Json.ReadFault Value := do
  let chars := Json.skipGap s.toList
  let (v, rest) ← Json.read (chars.length + 1) room chars
  if (Json.skipGap rest).isEmpty then pure v else throw .malformed

/-- The value of a text, with room for all collections that it can hold. -/
def ofJson? (s : String) : Option Value :=
  (readJson s.toList.length s).toOption

end HdlLint.Value
