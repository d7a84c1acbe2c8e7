import HdlLint.Text.Digit

/-!
# Forms of plain scalars

A plain scalar without a tag is taken for a truth value, a number, a date or nothing by
its form alone. Each form is a predicate on its characters.
-/

namespace HdlLint.Yaml.Form

/-- A text without the line feed at its end, if there is one. -/
def dropFinalBreak (s : List Char) : List Char :=
  if s.getLast? = some '\n' then s.dropLast else s

/-- The text in lower case, in upper case, or with only its first letter in upper case. -/
def inThreeCases (word : String) : List String :=
  match word.toList with
  | [] => [word]
  | c :: r =>
    [word, String.ofList (c.toUpper :: r), String.ofList (word.toList.map Char.toUpper)]

def isBool (s : List Char) : Bool :=
  (["yes", "no", "true", "false", "on", "off"].flatMap inThreeCases).contains
    (String.ofList s)

def isNull (s : List Char) : Bool :=
  s.isEmpty || s == ['~'] || (inThreeCases "null").contains (String.ofList s)

/-- A decimal digit or an underscore. -/
def isDigitOrUnderscore (c : Char) : Bool :=
  Text.isAsciiDigit c || c = '_'

def dropSign : List Char → List Char
  | '+' :: r => r
  | '-' :: r => r
  | r => r

/-- A part of a number in base sixty: one digit, or two below sixty. -/
def isSixtieth : List Char → Bool
  | [a] => Text.isAsciiDigit a
  | [a, b] => 0x30 ≤ a.toNat && a.toNat ≤ 0x35 && Text.isAsciiDigit b
  | _ => false

/-- The parts of a text between colons. -/
def colonParts : List Char → List (List Char)
  | [] => [[]]
  | ':' :: r => [] :: colonParts r
  | c :: r =>
    match colonParts r with
    | [] => [[c]]
    | w :: ws => (c :: w) :: ws

/-- Digits and underscores beginning with a digit that passes a test. -/
def isDigits (first : Char → Bool) : List Char → Bool
  | [] => false
  | c :: r => first c && r.all isDigitOrUnderscore

/-- A number in base sixty with at least two parts. -/
def isSexagesimal (first : Char → Bool) (s : List Char) : Bool :=
  match colonParts s with
  | w :: ws => isDigits first w && !ws.isEmpty && ws.all isSixtieth
  | [] => false

def isPositiveDigit (c : Char) : Bool :=
  0x31 ≤ c.toNat && c.toNat ≤ 0x39

/-- An integer: in base two, eight, ten, sixteen or sixty. -/
def isInt (s : List Char) : Bool :=
  let body := dropSign s
  let based := match body with
    | '0' :: 'b' :: r => !r.isEmpty && r.all fun c => c = '0' || c = '1' || c = '_'
    | '0' :: 'x' :: r =>
        !r.isEmpty && r.all fun c => ((Text.radixDigit? c).any (· < 16)) || c = '_'
    | '0' :: r => r.all fun c => (0x30 ≤ c.toNat && c.toNat ≤ 0x37) || c = '_'
    | _ => false
  based || isDigits isPositiveDigit body || isSexagesimal isPositiveDigit body

/-- An exponent with its sign, or nothing. -/
def isExponentOrNothing : List Char → Bool
  | [] => true
  | e :: sign :: d :: r =>
    (e = 'e' || e = 'E') && (sign = '+' || sign = '-') && (d :: r).all Text.isAsciiDigit
  | _ => false

/-- Digits and underscores, then an exponent or nothing. -/
def isFraction (s : List Char) : Bool :=
  isExponentOrNothing (s.dropWhile isDigitOrUnderscore)

def isReal (s : List Char) : Bool :=
  let body := dropSign s
  let whole := body.takeWhile (· ≠ '.')
  let fraction := body.drop (whole.length + 1)
  let hasPoint := whole.length < body.length
  let signed := body.length < s.length
  hasPoint &&
    ((isDigits Text.isAsciiDigit whole && isFraction fraction) ||
      (!signed && whole.isEmpty && fraction.head?.any Text.isAsciiDigit &&
        isFraction fraction) ||
      (isSexagesimal Text.isAsciiDigit whole && fraction.all isDigitOrUnderscore) ||
      (whole.isEmpty && ["inf", "Inf", "INF"].contains (String.ofList fraction)) ||
      (!signed && whole.isEmpty &&
        ["nan", "NaN", "NAN"].contains (String.ofList fraction)))

end HdlLint.Yaml.Form
