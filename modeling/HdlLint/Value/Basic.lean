import HdlLint.Number.Binary64

/-!
# Values

The values that settings documents, variables and log fields hold. A map keeps its entries
in order; a set keeps the order in which its elements were met. `sameKey` is the equality
under which keys of a map are the same: numbers of all kinds are compared by what they are
worth, and dates with a zone by the moment they name.

A collection can contain itself. It is written as a `cycle` with a label: inside it,
`back` with the label stands for the whole. `unfold` puts the whole in these places, so
that the collection can be looked into.
-/

namespace HdlLint

/-- A day of the calendar. -/
structure Date where
  year : Nat
  month : Nat
  day : Nat
  deriving Repr, DecidableEq

/-- A time on a day, with the minutes by which its zone is ahead of universal time, if it
has a zone. -/
structure DateTime where
  date : Date
  hour : Nat
  minute : Nat
  second : Nat
  microsecond : Nat
  offset : Option Int
  deriving Repr, DecidableEq

/-- A value. -/
inductive Value where
  | null
  | bool (b : Bool)
  | int (i : Int)
  | real (x : Binary64)
  | text (s : String)
  | bytes (bs : List UInt8)
  | date (d : Date)
  | time (t : DateTime)
  | list (xs : List Value)
  | tuple (xs : List Value)
  | set (xs : List Value)
  | map (entries : List (Value × Value))
  /-- A collection in which the label stands for itself. -/
  | cycle (label : Nat) (v : Value)
  /-- The collection with a label around this place. -/
  | back (label : Nat)
  deriving Repr, Inhabited

namespace Date

/-- Whether the year has a twenty-ninth of February. -/
def isLeapYear (year : Nat) : Bool :=
  year % 4 = 0 && (year % 100 ≠ 0 || year % 400 = 0)

/-- The number of days in a month. -/
def daysInMonth (year month : Nat) : Nat :=
  if month = 2 then (if isLeapYear year then 29 else 28)
  else if month = 4 || month = 6 || month = 9 || month = 11 then 30
  else 31

/-- The number of days before a date, counted from the beginning of the first year. -/
def dayNumber (d : Date) : Nat :=
  let y := d.year - 1
  y * 365 + y / 4 - y / 100 + y / 400 +
    (List.range (d.month - 1)).foldl (fun n m => n + daysInMonth d.year (m + 1)) 0 + d.day

end Date

/-- The microseconds from the beginning of the first year on, in universal time if there
is a zone. -/
def DateTime.instant (t : DateTime) : Int :=
  let minutes : Int := (t.date.dayNumber * 24 + t.hour) * 60 + t.minute
  ((minutes - t.offset.getD 0) * 60 + t.second) * 1000000 + t.microsecond

namespace Value

/-- An optional text as a value. -/
def ofText? : Option String → Value
  | some s => .text s
  | none => .null

/-- An optional integer as a value. -/
def ofInt? : Option Int → Value
  | some i => .int i
  | none => .null

/-- An optional number as a value. -/
def ofReal? : Option Binary64 → Value
  | some x => .real x
  | none => .null

/-- The number that a value is worth, with truth values counting as zero and one. -/
inductive Number where
  | integer (i : Int)
  | real (x : Binary64)

def number? : Value → Option Number
  | .bool b => some (.integer (if b then 1 else 0))
  | .int i => some (.integer i)
  | .real x => some (match x.toInt? with
    | some i => .integer i
    | none => .real x)
  | _ => none

def Number.same : Number → Number → Bool
  | .integer i, .integer j => i = j
  | .real x, .real y => x = y
  | _, _ => false

mutual

/-- The value with another one in place of a label. -/
def replaceBack (label : Nat) (whole : Value) : Value → Value
  | .list xs => .list (replaceBacks label whole xs)
  | .tuple xs => .tuple (replaceBacks label whole xs)
  | .set xs => .set (replaceBacks label whole xs)
  | .map es => .map (replaceBackEntries label whole es)
  | .cycle l v => if l = label then .cycle l v else .cycle l (replaceBack label whole v)
  | .back l => if l = label then whole else .back l
  | v => v

/-- The members of a collection with another value in place of a label. -/
def replaceBacks (label : Nat) (whole : Value) : List Value → List Value
  | [] => []
  | x :: xs => replaceBack label whole x :: replaceBacks label whole xs

/-- The entries of a map with another value in place of a label. -/
def replaceBackEntries (label : Nat) (whole : Value) :
    List (Value × Value) → List (Value × Value)
  | [] => []
  | (k, v) :: r =>
      (replaceBack label whole k, replaceBack label whole v) ::
        replaceBackEntries label whole r

end

/-- A value that can be looked into: a collection that contains itself is shown with
itself in the places that stand for it. -/
def unfold : Value → Value
  | .cycle l v => replaceBack l (.cycle l v) v
  | v => v

mutual

/-- Whether some collection in a value contains itself. -/
def hasCycle : Value → Bool
  | .list xs => anyCycle xs
  | .tuple xs => anyCycle xs
  | .set xs => anyCycle xs
  | .map es => anyCycleEntry es
  | .cycle _ _ => true
  | .back _ => true
  | _ => false

/-- Whether a member of a collection holds a collection that contains itself. -/
def anyCycle : List Value → Bool
  | [] => false
  | x :: xs => hasCycle x || anyCycle xs

/-- Whether an entry of a map holds a collection that contains itself. -/
def anyCycleEntry : List (Value × Value) → Bool
  | [] => false
  | (k, v) :: r => hasCycle k || hasCycle v || anyCycleEntry r

end

/-- A value without cycles is looked into as it is. -/
theorem unfold_of_hasCycle_eq_false {v : Value} (h : v.hasCycle = false) :
    v.unfold = v := by
  cases v <;> first | rfl | simp [hasCycle] at h

mutual

def sameKey : Value → Value → Bool
  | .text s, .text t => s = t
  | .null, .null => true
  | .bytes b, .bytes c => b = c
  | .date d, .date e => d = e
  | .time t, .time u => t.offset.isSome = u.offset.isSome && t.instant = u.instant
  | .tuple xs, .tuple ys => sameKeys xs ys
  | a, b =>
    match a.number?, b.number? with
    | some m, some n => m.same n
    | _, _ => false

/-- Equality of the members of two tuples. -/
def sameKeys : List Value → List Value → Bool
  | [], [] => true
  | x :: xs, y :: ys => sameKey x y && sameKeys xs ys
  | _, _ => false

end

mutual

/-- Whether a value can be a key: lists, sets and maps cannot. -/
def isKey : Value → Bool
  | .list _ => false
  | .set _ => false
  | .map _ => false
  | .cycle _ _ => false
  | .back _ => false
  | .tuple xs => areKeys xs
  | _ => true

/-- Whether all values of a list can be keys. -/
def areKeys : List Value → Bool
  | [] => true
  | x :: xs => isKey x && areKeys xs

end

/-- The entries with a new value for a key. A key that is already there keeps its place
and its form. -/
def assign (key value : Value) : List (Value × Value) → List (Value × Value)
  | [] => [(key, value)]
  | (k, v) :: r => if sameKey k key then (k, value) :: r else (k, v) :: assign key value r

def lookup? (key : Value) : List (Value × Value) → Option Value
  | [] => none
  | (k, v) :: r => if sameKey k key then some v else lookup? key r

/-- The value of a textual key in a map. -/
def field? (v : Value) (name : String) : Option Value :=
  match v.unfold with
  | .map entries => lookup? (.text name) entries
  | _ => none

/-- A map built by assigning the entries in order. -/
def ofEntries (entries : List (Value × Value)) : Value :=
  .map (entries.foldl (fun acc e => assign e.1 e.2 acc) [])

/-- Whether the value counts as true: nothing, zero and whatever is empty do not. -/
def isTruthy : Value → Bool
  | .null => false
  | .bool b => b
  | .int i => i ≠ 0
  | .real (.finite _ m _) => m ≠ 0
  | .real _ => true
  | .text s => s ≠ ""
  | .bytes b => !b.isEmpty
  | .date _ => true
  | .time _ => true
  | .list xs => !xs.isEmpty
  | .tuple xs => !xs.isEmpty
  | .set xs => !xs.isEmpty
  | .map es => !es.isEmpty
  | .cycle _ v => isTruthy v
  | .back _ => true

end Value

end HdlLint
