import HdlLint.Text.Blank
import HdlLint.Text.Digit
import HdlLint.Text.Quoted

/-!
# Integer literals

An integer literal is an optional sign and a run of decimal digits of any script. Single
underscores may stand between digits, and white space may stand around the literal. A
decimal literal holds at most `maxDigits` digits, underscores not counted.

`readInteger base` also reads literals of base two, eight and sixteen, which may repeat
their base mark.
-/

namespace HdlLint.Text

/-- The most digits a decimal literal may have. -/
def maxDigits : Nat := 4300

/-- Why a text is no integer literal. -/
inductive IntegerFault where
  /-- The text does not have the form of a literal of this base. -/
  | malformed (base : Nat) (text : String)
  /-- The decimal literal has this many digits, which are too many. -/
  | tooLong (digits : Nat)
  deriving Repr, DecidableEq

/-- The most characters of a quoted text that a message shows. -/
def maxQuotedLength : Nat := 200

/-- What is said of an integer that has too many digits, with what is known of their
number. -/
def tooLongMessage (number : String) : String :=
  "Exceeds the limit (" ++ toString maxDigits ++
    " digits) for integer string conversion" ++ number ++
    "; use sys.set_int_max_str_digits() to increase the limit"

def IntegerFault.message : IntegerFault → String
  | malformed base text =>
    "invalid literal for int() with base " ++ toString base ++ ": " ++
      String.ofList ((quoted text).toList.take maxQuotedLength)
  | tooLong digits => tooLongMessage (": value has " ++ toString digits ++ " digits")

/-- Whether underscores stand only between two digits. The flag tells whether a digit
stands before. -/
def wellSeparated (afterDigit : Bool) : List Char → Bool
  | [] => afterDigit
  | c :: r =>
    if c = '_' then afterDigit && wellSeparated false r else wellSeparated true r

/-- The value of a digit of the base: a decimal digit of any script, or an ASCII
letter. -/
def digitOfBase? (base : Nat) (c : Char) : Option Nat :=
  ((digitValue? c).or (radixDigit? c)).filter (· < base)

/-- The sign of a literal, true for minus, and what follows it. -/
def takeSign : List Char → Bool × List Char
  | '-' :: r => (true, r)
  | '+' :: r => (false, r)
  | r => (false, r)

/-- The mark of a base other than ten, in lower case. -/
def baseMark? : Nat → Option Char
  | 2 => some 'b'
  | 8 => some 'o'
  | 16 => some 'x'
  | _ => none

/-- What follows the mark of the base, when the text begins with it. An underscore may
follow the mark. -/
def dropBaseMark (base : Nat) : List Char → List Char
  | '0' :: m :: r =>
    if baseMark? base = some m.toLower then
      match r with
      | '_' :: r' => r'
      | _ => r
    else '0' :: m :: r
  | s => s

/-- The magnitude of an unsigned literal, or why there is none. -/
def readMagnitude (base : Nat) (text : String) (s : List Char) :
    Except IntegerFault Nat :=
  let isRun := fun c => (digitOfBase? base c).isSome || c = '_'
  let run := s.takeWhile isRun
  let digits := run.filterMap (digitOfBase? base)
  if !wellSeparated false run then .error (.malformed base text)
  else if base = 10 && maxDigits < digits.length then .error (.tooLong digits.length)
  else if !(s.dropWhile isRun).isEmpty then .error (.malformed base text)
  else .ok (ofDigits base digits)

/-- Reads an integer literal of the base. -/
def readInteger (base : Nat) (text : String) : Except IntegerFault Int :=
  let (negative, s) := takeSign (stripWhile isSpace text.toList)
  (readMagnitude base text (dropBaseMark base s)).map fun n =>
    if negative then -(n : Int) else n

/-- The value of a decimal literal, if the text is one. -/
def integer? (text : String) : Option Int :=
  (readInteger 10 text).toOption

end HdlLint.Text
