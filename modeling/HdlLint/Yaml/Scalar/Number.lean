import HdlLint.Number.Decimal
import HdlLint.Text.Integer
import HdlLint.Text.LowerCase
import HdlLint.Text.Quoted
import HdlLint.Yaml.Cursor
import HdlLint.Yaml.Scalar.Form

/-!
# Numbers in documents

Underscores in a number say nothing. An integer may be written in base two, eight, ten,
sixteen or sixty, a number with a point also in base sixty, and there are words for
infinity and for the undefined number.
-/

namespace HdlLint.Yaml

/-- The crash of a text that is no number. -/
def unreadableNumber (text : String) : DocumentFault :=
  .crash (.of .value ("could not convert string to float: " ++ Text.quoted text))

/-- Reads an integer literal of a base. -/
def readInt (base : Nat) (s : List Char) : Except DocumentFault Int :=
  (Text.readInteger base (String.ofList s)).mapError fun f =>
    .crash (.of .value f.message)

/-- A text without its underscores and its sign, which is true for minus. There has to be
something. -/
def bareNumber (s : List Char) : Except DocumentFault (Bool × List Char) :=
  match s.filter (· ≠ '_') with
  | [] => .error (.crash (.of .index "string index out of range"))
  | '-' :: r => .ok (true, r)
  | '+' :: r => .ok (false, r)
  | r => .ok (false, r)

def readMagnitude (s : List Char) : Except DocumentFault Int :=
  match s with
  | [] => .error (.crash (.of .index "string index out of range"))
  | ['0'] => .ok 0
  | '0' :: 'b' :: r => readInt 2 r
  | '0' :: 'x' :: r => readInt 16 r
  | '0' :: r => readInt 8 ('0' :: r)
  | r =>
    if r.contains ':' then
      (Form.colonParts r).foldlM (fun n part => do pure (n * 60 + (← readInt 10 part))) 0
    else readInt 10 r

/-- The integer that a scalar stands for. -/
def intOfText (s : String) : Except DocumentFault Int := do
  let (negative, r) ← bareNumber s.toList
  let n ← readMagnitude r
  pure (if negative then -n else n)

/-- Reads a decimal, with white space around it. -/
def readReal (s : List Char) : Except DocumentFault Binary64 :=
  match Binary64.ofText? Text.digitValue? (Text.stripWhile Text.isSpace s) with
  | some x => .ok x
  | none => .error (unreadableNumber (String.ofList s))

/-- The sum of parts times powers of sixty, beginning with the last part. The powers have
to be in the range of numbers. -/
def ofSixtieths (parts : List Binary64) : Except DocumentFault Binary64 := do
  let (sum, _) ← parts.reverse.foldlM
    (fun (acc : Binary64 × Int) x =>
      let power := Binary64.ofInt acc.2
      if power.isFinite then .ok (acc.1.add (x.mul power), acc.2 * 60)
      else .error (.crash (.of .overflow "int too large to convert to float")))
    (Binary64.zero, (1 : Int))
  pure sum

/-- A text without underscores and sign, in lower case. -/
def bareReal (s : String) : Except DocumentFault (Bool × List Char) :=
  bareNumber (Text.lower (String.ofList (s.toList.filter (· ≠ '_')))).toList

/-- Whether a scalar is the word for the undefined number. -/
def isUndefinedWord (s : String) : Bool :=
  match bareReal s with
  | .ok (_, r) => String.ofList r = ".nan"
  | .error _ => false

/-- The number that a scalar stands for. -/
def realOfText (s : String) : Except DocumentFault Binary64 := do
  let (negative, r) ← bareReal s
  let signed := fun (x : Binary64) => if negative then x.neg else x
  if String.ofList r = ".inf" then pure (.infinite negative)
  else if String.ofList r = ".nan" then pure .nan
  else if r.contains ':' then
    pure (signed (← ofSixtieths (← (Form.colonParts r).mapM readReal)))
  else pure (signed (← readReal r))

end HdlLint.Yaml
