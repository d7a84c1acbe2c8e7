import HdlLint.Number.Shortest
import HdlLint.Text.Blank
import HdlLint.Text.Digit

/-!
# Decimal texts of numbers

`Binary64.text` writes a number with the fewest digits that read back. `Layout` holds the
choices of that notation: the exponents of the first digit that are written positionally,
and the words for the values that have no digits. `Binary64.ofDecimal?` reads an unsigned
decimal.
-/

namespace HdlLint.Binary64

/-- The choices of a decimal notation. -/
structure Layout where
  /-- The least exponent of the first digit that is written positionally. -/
  positionalFrom : Int
  /-- The least exponent above it that is not. -/
  positionalBelow : Int
  /-- The word for the undefined value. -/
  nan : String
  /-- The word for positive infinity. -/
  infinity : String

/-- Positional notation from `1e-4` on and below `1e16`. -/
def plainLayout : Layout := ⟨-4, 16, "nan", "inf"⟩

/-- The same notation with the long words that documents use. -/
def documentLayout : Layout := ⟨-4, 16, "NaN", "Infinity"⟩

/-- Digits in positional notation, with at least one digit on both sides of the point. -/
def positional (digits : List Char) (first : Int) : List Char :=
  if first < 0 then
    '0' :: '.' :: List.replicate (-first - 1).toNat '0' ++ digits
  else
    let whole := first.toNat + 1
    let fraction := digits.drop whole
    digits.take whole ++ List.replicate (whole - digits.length) '0' ++
      '.' :: (if fraction.isEmpty then ['0'] else fraction)

/-- Digits with an exponent of at least two places. -/
def scientific (digits : List Char) (first : Int) : List Char :=
  let mantissa := match digits with
    | [d] => [d]
    | d :: r => d :: '.' :: r
    | [] => []
  let places := (toString first.natAbs).toList
  mantissa ++ 'e' :: (if first < 0 then '-' else '+') ::
    List.replicate (2 - places.length) '0' ++ places

/-- The text of a number in a notation. -/
def render (layout : Layout) : Binary64 → String
  | .nan => layout.nan
  | .infinite s => (if s then "-" else "") ++ layout.infinity
  | .finite s m e =>
    let body :=
      if m = 0 then ['0', '.', '0']
      else
        let d := shortest m e
        let digits := (toString d.digits).toList
        if layout.positionalFrom ≤ d.exponent && d.exponent < layout.positionalBelow then
          positional digits d.exponent
        else scientific digits d.exponent
    String.ofList (if s then '-' :: body else body)

def text (x : Binary64) : String :=
  x.render plainLayout

/-- The number nearest to `digits * 10 ^ exponent`. Exponents so large or small that the
result is infinite or zero whatever the digits are not computed with. -/
def ofScientific (negative : Bool) (digits : Nat) (exponent : Int) : Binary64 :=
  let places : Int := (toString digits).length
  if digits = 0 then ofRatio negative 0 1
  else if 400 < places + exponent then .infinite negative
  else if places + exponent < -400 then ofRatio negative 0 1
  else
    let (n, d) := decimalRatio digits exponent
    ofRatio negative n d

/-- Digits with their values, as long as the text has any. -/
def takeDigits (digit? : Char → Option Nat) (s : List Char) : List Nat × List Char :=
  ((s.takeWhile fun c => (digit? c).isSome).filterMap digit?,
    s.dropWhile fun c => (digit? c).isSome)

/-- An exponent after its mark, with its sign; none if no digit follows. -/
def readExponent? (digit? : Char → Option Nat) (s : List Char) :
    Option (Int × List Char) :=
  let (negative, r) := match s with
    | '-' :: r => (true, r)
    | '+' :: r => (false, r)
    | r => (false, r)
  let (ds, rest) := takeDigits digit? r
  if ds.isEmpty then none
  else
    let n := Text.ofDigits 10 ds
    some (if negative then -(n : Int) else n, rest)

/-- Reads an unsigned decimal with an optional point and exponent, which has a digit
before or after the point. The whole text has to be read. -/
def ofDecimal? (digit? : Char → Option Nat) (negative : Bool) (s : List Char) :
    Option Binary64 :=
  let (whole, r) := takeDigits digit? s
  let (fraction, r) := match r with
    | '.' :: r' => takeDigits digit? r'
    | _ => ([], r)
  if whole.isEmpty && fraction.isEmpty then none
  else
    let digits := Text.ofDigits 10 (whole ++ fraction)
    let scale := -(fraction.length : Int)
    match r with
    | [] => some (ofScientific negative digits scale)
    | c :: r' =>
      if c = 'e' || c = 'E' then
        match readExponent? digit? r' with
        | some (e, []) => some (ofScientific negative digits (e + scale))
        | _ => none
      else none

/-- The words for infinity and the undefined value, in any case. -/
def ofWord? (negative : Bool) (s : List Char) : Option Binary64 :=
  match String.ofList (s.map Char.toLower) with
  | "inf" => some (.infinite negative)
  | "infinity" => some (.infinite negative)
  | "nan" => some .nan
  | _ => none

/-- Reads a signed decimal or word. -/
def ofText? (digit? : Char → Option Nat) (s : List Char) : Option Binary64 :=
  let (negative, r) := match s with
    | '-' :: r => (true, r)
    | '+' :: r => (false, r)
    | r => (false, r)
  (ofWord? negative r).or (ofDecimal? digit? negative r)

/-- The value of an ASCII digit. -/
def asciiDigit? (c : Char) : Option Nat :=
  if Text.isAsciiDigit c then some (c.toNat - 0x30) else none

/-- Reads a signed decimal or word in ASCII, without anything around it. -/
def parse? (s : String) : Option Binary64 :=
  ofText? asciiDigit? s.toList

end HdlLint.Binary64
