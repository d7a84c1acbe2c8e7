import HdlLint.Number.Binary64

/-!
# Shortest decimal digits

`shortest` gives the fewest decimal digits that read back as a positive number and, of the
decimals with that many digits, the nearest one, a tie going to the even last digit. The
candidates of a length are the two neighbours of the number on the decimal grid of that
length; they are tried in exact arithmetic.
-/

namespace HdlLint.Binary64

/-- A positive decimal: its digits as a number, the first one not zero, and the exponent
of ten of its first digit. -/
structure Decimal where
  digits : Nat
  exponent : Int
  deriving Repr, DecidableEq

/-- The greatest `k` up to a bound with `10 ^ k * den ≤ num`, for a quotient of at least
one. -/
def floorLog10 (num den : Nat) : Nat → Nat
  | 0 => 0
  | k + 1 => if Nat.pow 10 (k + 1) * den ≤ num then k + 1 else floorLog10 num den k

/-- The exponent of ten of the first digit of a positive quotient. -/
def decimalExponent (num den : Nat) : Int :=
  if den ≤ num then floorLog10 num den (num.log2 - den.log2 + 1)
  else
    let k := floorLog10 den num (den.log2 - num.log2 + 1)
    if Nat.pow 10 k * num = den then -(k : Int) else -(k : Int) - 1

/-- `digits * 10 ^ scale` as a quotient. -/
def decimalRatio (digits : Nat) (scale : Int) : Nat × Nat :=
  if 0 ≤ scale then (digits * Nat.pow 10 scale.toNat, 1)
  else (digits, Nat.pow 10 (-scale).toNat)

/-- The decimal `digits * 10 ^ scale` reads back as the number. -/
def readsBack (x : Binary64) (digits : Nat) (scale : Int) : Bool :=
  let (n, d) := decimalRatio digits scale
  ofRatio false n d = x

/-- The neighbours of a quotient on the grid of `10 ^ scale`, the lower one and twice the
remainder compared with the step. -/
def gridBelow (num den : Nat) (scale : Int) : Nat × Ordering :=
  let (n, d) :=
    if 0 ≤ scale then (num, den * Nat.pow 10 scale.toNat)
    else (num * Nat.pow 10 (-scale).toNat, den)
  (n / d, compare (2 * (n % d)) d)

/-- The decimal of a given number of digits that reads back, if there is one. -/
def candidate? (x : Binary64) (num den : Nat) (first : Int) (count : Nat) : Option Nat :=
  let scale := first - (count : Int) + 1
  let (low, half) := gridBelow num den scale
  match readsBack x low scale, readsBack x (low + 1) scale with
  | true, false => some low
  | false, true => some (low + 1)
  | false, false => none
  | true, true =>
    match half with
    | .lt => some low
    | .gt => some (low + 1)
    | .eq => if low % 2 = 0 then some low else some (low + 1)

/-- The digits without the zeros at their end, and how many these were. -/
def dropZeros : Nat → Nat → Nat
  | 0, n => n
  | fuel + 1, n => if n ≠ 0 && n % 10 = 0 then dropZeros fuel (n / 10) else n

/-- The shortest decimal that reads back as `mantissa * 2 ^ exponent`, which is positive.
Seventeen digits always do. -/
def shortest (mantissa : Nat) (exponent : Int) : Decimal :=
  let x := Binary64.finite false mantissa exponent
  let (num, den) := magnitude mantissa exponent
  let first := decimalExponent num den
  match (List.range 17).findSome? fun k =>
    (candidate? x num den first (k + 1)).map (·, k + 1) with
  | some (n, count) => ⟨dropZeros 17 n, if n = Nat.pow 10 count then first + 1 else first⟩
  | none => ⟨0, 0⟩

end HdlLint.Binary64
