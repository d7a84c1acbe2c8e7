import HdlLint.Number.Decimal
import HdlLint.Text.Integer
import HdlLint.Value.Basic

/-!
# Literal forms of values

`Value.literal` writes a value so that its kind can be seen: texts are quoted, collections
bracketed. Inside itself a collection is written as an ellipsis. `Value.display` is the
same but for a value that stands alone: a text is shown as it is, and a date by its
digits. Integers have to be short enough for that: `Value.hasLongInt` finds those that are
not.
-/

namespace HdlLint

/-- A number with zeros before it, to fill a width. -/
def padded (width n : Nat) : String :=
  let digits := (toString n).toList
  String.ofList (List.replicate (width - digits.length) '0' ++ digits)

def Date.display (d : Date) : String :=
  padded 4 d.year ++ "-" ++ padded 2 d.month ++ "-" ++ padded 2 d.day

/-- The literal form of a date. -/
def Date.literal (d : Date) : String :=
  "datetime.date(" ++ toString d.year ++ ", " ++ toString d.month ++
    ", " ++ toString d.day ++ ")"

namespace DateTime

/-- An offset from universal time, as hours and minutes. -/
def displayOffset (minutes : Int) : String :=
  (if minutes < 0 then "-" else "+") ++ padded 2 (minutes.natAbs / 60) ++ ":" ++
    padded 2 (minutes.natAbs % 60)

def display (t : DateTime) : String :=
  t.date.display ++ " " ++ padded 2 t.hour ++ ":" ++ padded 2 t.minute ++
    ":" ++ padded 2 t.second ++
    (if t.microsecond = 0 then "" else "." ++ padded 6 t.microsecond) ++
    (t.offset.map displayOffset).getD ""

/-- The literal form of a time zone. -/
def literalOffset (minutes : Int) : String :=
  if minutes = 0 then "datetime.timezone.utc"
  else
    let seconds := minutes * 60
    let days := seconds / 86400
    let rest := seconds % 86400
    let parts :=
      (if days = 0 then [] else ["days=" ++ toString days]) ++
        (if rest = 0 then [] else ["seconds=" ++ toString rest])
    "datetime.timezone(datetime.timedelta(" ++ ", ".intercalate parts ++ "))"

/-- The literal form of a time. Seconds and microseconds are left out from the end while
they are zero. -/
def literal (t : DateTime) : String :=
  let fields := [t.date.year, t.date.month, t.date.day, t.hour, t.minute] ++
    (if t.microsecond ≠ 0 then [t.second, t.microsecond]
      else if t.second ≠ 0 then [t.second] else [])
  let zone := match t.offset with
    | some minutes => ["tzinfo=" ++ literalOffset minutes]
    | none => []
  "datetime.datetime(" ++ ", ".intercalate (fields.map toString ++ zone) ++ ")"

end DateTime

namespace Value

/-- What is written for a collection inside itself. -/
def ellipsis : Value → String
  | .list _ => "[...]"
  | .tuple _ => "(...)"
  | _ => "\x7b...\x7d"

mutual

/-- The literal form of a value inside collections that contain themselves. Given are
their labels, and what is written for them. -/
def literalInside (opened : List (Nat × String)) : Value → String
  | .null => "None"
  | .bool b => if b then "True" else "False"
  | .int i => toString i
  | .real x => x.text
  | .text s => Text.quoted s
  | .bytes b => Text.quotedBytes b
  | .date d => d.literal
  | .time t => t.literal
  | .list xs => "[" ++ ", ".intercalate (literals opened xs) ++ "]"
  | .tuple [x] => "(" ++ literalInside opened x ++ ",)"
  | .tuple xs => "(" ++ ", ".intercalate (literals opened xs) ++ ")"
  | .set [] => "set()"
  | .set xs => "\x7b" ++ ", ".intercalate (literals opened xs) ++ "\x7d"
  | .map es => "\x7b" ++ ", ".intercalate (literalEntries opened es) ++ "\x7d"
  | .cycle l v =>
    match opened.lookup l with
    | some mark => mark
    | none => literalInside ((l, v.ellipsis) :: opened) v
  | .back l => (opened.lookup l).getD ""

/-- The literal forms of the members of a collection. -/
def literals (opened : List (Nat × String)) : List Value → List String
  | [] => []
  | x :: xs => literalInside opened x :: literals opened xs

/-- The literal forms of the entries of a map. -/
def literalEntries (opened : List (Nat × String)) : List (Value × Value) → List String
  | [] => []
  | (k, v) :: r =>
      (literalInside opened k ++ ": " ++ literalInside opened v) ::
        literalEntries opened r

end

/-- The literal form of a value. -/
def literal (v : Value) : String :=
  literalInside [] v

/-- Whether an integer has more digits than a literal may have. -/
def isLongInt (i : Int) : Bool :=
  Nat.pow 10 Text.maxDigits ≤ i.natAbs

mutual

/-- Whether a value holds an integer that is too long to be written. -/
def hasLongInt : Value → Bool
  | .int i => isLongInt i
  | .list xs => anyLongInt xs
  | .tuple xs => anyLongInt xs
  | .set xs => anyLongInt xs
  | .map es => anyLongIntEntry es
  | .cycle _ v => hasLongInt v
  | _ => false

/-- Whether a member of a collection holds an integer that is too long. -/
def anyLongInt : List Value → Bool
  | [] => false
  | x :: xs => hasLongInt x || anyLongInt xs

/-- Whether an entry of a map holds an integer that is too long. -/
def anyLongIntEntry : List (Value × Value) → Bool
  | [] => false
  | (k, v) :: r => hasLongInt k || hasLongInt v || anyLongIntEntry r

end

/-- A value as it is shown on its own. -/
def display : Value → String
  | .text s => s
  | .date d => d.display
  | .time t => t.display
  | v => v.literal

end Value

end HdlLint
