/-!
# Binary floating-point numbers

`Binary64` is the set of values of the IEEE format of that name, every finite number being
given by its sign, its integral mantissa and the exponent of two that scales it. `ofRatio`
rounds an exact quotient to the nearest value, a tie going to the even mantissa; all other
operations compute exactly and round once through it. So every number that the library
builds has the greatest mantissa below `2 ^ 53` that its exponent range allows.
-/

namespace HdlLint

/-- A value of the format: `finite negative m e` is `m * 2 ^ e`, negated if the flag is
set. -/
inductive Binary64 where
  | nan
  | infinite (negative : Bool)
  | finite (negative : Bool) (mantissa : Nat) (exponent : Int)
  deriving Repr, DecidableEq

namespace Binary64

/-- The exponent of the smallest positive value. -/
def minExponent : Int := -1074

/-- The greatest exponent of a finite value. -/
def maxExponent : Int := 971

/-- The integer nearest to a quotient, a tie going to the even one. -/
def roundDiv (num den : Nat) : Nat :=
  let q := num / den
  let r := num % den
  if 2 * r < den then q
  else if den < 2 * r then q + 1
  else if q % 2 = 0 then q else q + 1

/-- A quotient divided by a power of two, as a quotient. -/
def scaleDown (num den : Nat) (e : Int) : Nat × Nat :=
  if 0 ≤ e then (num, den * Nat.pow 2 e.toNat) else (num * Nat.pow 2 (-e).toNat, den)

/-- The exponent at which the quotient has a mantissa of 53 bits, or the least
exponent. -/
def exponentFor (num den : Nat) : Int :=
  let e := (num.log2 : Int) - (den.log2 : Int) - 52
  let (n, d) := scaleDown num den e
  max minExponent (if n / d < Nat.pow 2 52 then e - 1 else e)

/-- The value nearest to a quotient with the given sign. -/
def ofRatio (negative : Bool) (num den : Nat) : Binary64 :=
  if num = 0 || den = 0 then .finite negative 0 minExponent
  else
    let e := exponentFor num den
    let (n, d) := scaleDown num den e
    let m := roundDiv n d
    let (m, e) := if m = Nat.pow 2 53 then (Nat.pow 2 52, e + 1) else (m, e)
    if maxExponent < e then .infinite negative else .finite negative m e

def zero : Binary64 := .finite false 0 minExponent

/-- The value nearest to an integer, infinite when it is out of range. -/
def ofInt (i : Int) : Binary64 :=
  ofRatio (i < 0) i.natAbs 1

/-- The magnitude of a finite value as a quotient. -/
def magnitude (mantissa : Nat) (exponent : Int) : Nat × Nat :=
  if 0 ≤ exponent then (mantissa * Nat.pow 2 exponent.toNat, 1)
  else (mantissa, Nat.pow 2 (-exponent).toNat)

/-- The value is neither infinite nor undefined. -/
def isFinite : Binary64 → Bool
  | .finite .. => true
  | _ => false

/-- The integer that the value is, if it is one. -/
def toInt? : Binary64 → Option Int
  | .finite negative m e =>
    let (n, d) := magnitude m e
    if n % d = 0 then some (if negative then -((n / d : Nat) : Int) else (n / d : Nat))
    else none
  | _ => none

/-- The value is at most zero. The undefined value is not. -/
def isNonpositive : Binary64 → Bool
  | .nan => false
  | .infinite negative => negative
  | .finite negative m _ => negative || m = 0

/-- The value is greater than zero. The undefined value is not. -/
def isPositive : Binary64 → Bool
  | .nan => false
  | .infinite negative => !negative
  | .finite negative m _ => !negative && m ≠ 0

/-- The value with the opposite sign. -/
def neg : Binary64 → Binary64
  | .nan => .nan
  | .infinite s => .infinite (!s)
  | .finite s m e => .finite (!s) m e

/-- The value of a finite number, as an integer over a natural number. -/
def signedRatio (negative : Bool) (mantissa : Nat) (exponent : Int) : Int × Nat :=
  let (n, d) := magnitude mantissa exponent
  (if negative then -(n : Int) else n, d)

/-- The sum, rounded. An exact zero is negative only if both terms are. -/
def add : Binary64 → Binary64 → Binary64
  | .nan, _ => .nan
  | _, .nan => .nan
  | .infinite s, .infinite s' => if s = s' then .infinite s else .nan
  | .infinite s, _ => .infinite s
  | _, .infinite s => .infinite s
  | .finite s m e, .finite s' m' e' =>
    let (n, d) := signedRatio s m e
    let (n', d') := signedRatio s' m' e'
    let sum := n * d' + n' * d
    ofRatio (if sum = 0 then s && s' else sum < 0) sum.natAbs (d * d')

def sub (x y : Binary64) : Binary64 :=
  x.add y.neg

def mul : Binary64 → Binary64 → Binary64
  | .nan, _ => .nan
  | _, .nan => .nan
  | .infinite s, .infinite s' => .infinite (s != s')
  | .infinite s, .finite s' m _ => if m = 0 then .nan else .infinite (s != s')
  | .finite s m _, .infinite s' => if m = 0 then .nan else .infinite (s != s')
  | .finite s m e, .finite s' m' e' =>
    let (n, d) := magnitude m e
    let (n', d') := magnitude m' e'
    ofRatio (s != s') (n * n') (d * d')

/-- The value nearest to the multiple of `10 ^ -places` that is nearest to the given one,
ties going to the even multiple. -/
def roundPlaces (places : Nat) : Binary64 → Binary64
  | .finite s m e =>
    let (n, d) := magnitude m e
    ofRatio s (roundDiv (n * Nat.pow 10 places) d) (Nat.pow 10 places)
  | x => x

end Binary64

end HdlLint
