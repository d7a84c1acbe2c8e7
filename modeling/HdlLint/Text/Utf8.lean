import HdlLint.Text.Digit

/-!
# Decoding UTF-8

`decodeLossy` reads a sequence of bytes as UTF-8 and puts U+FFFD for each maximal part of
an ill-formed sequence. `decode` reads it strictly and reports the first ill-formed part.
Both are runs of one machine whose state is what the bytes of an unfinished character have
said so far, so that a byte is looked at once.
-/

namespace HdlLint.Text.Utf8

/-- An unfinished character: how many bytes are missing, the bounds of the next one and
the bits read. -/
structure Pending where
  missing : Nat
  low : Nat
  high : Nat
  bits : Nat
  deriving Repr, DecidableEq

/-- What a lead byte of a character of more than one byte asks for. -/
def lead? (b : Nat) : Option Pending :=
  if b < 0xC2 then none
  else if b < 0xE0 then some ⟨1, 0x80, 0xBF, b - 0xC0⟩
  else if b = 0xE0 then some ⟨2, 0xA0, 0xBF, 0⟩
  else if b = 0xED then some ⟨2, 0x80, 0x9F, 0xD⟩
  else if b < 0xF0 then some ⟨2, 0x80, 0xBF, b - 0xE0⟩
  else if b = 0xF0 then some ⟨3, 0x90, 0xBF, 0⟩
  else if b < 0xF4 then some ⟨3, 0x80, 0xBF, b - 0xF0⟩
  else if b = 0xF4 then some ⟨3, 0x80, 0x8F, 4⟩
  else none

/-- The byte continues the unfinished character. -/
def Pending.accepts (p : Pending) (b : Nat) : Bool :=
  p.low ≤ b && b ≤ p.high

/-- The bits read after one more byte. -/
def Pending.extend (p : Pending) (b : Nat) : Nat :=
  p.bits * 64 + b % 64

/-- What is unfinished after a byte that does not complete the character. -/
def Pending.next (p : Pending) (b : Nat) : Pending :=
  ⟨p.missing - 1, 0x80, 0xBF, p.extend b⟩

/-- The character that stands for an ill-formed part. -/
def replacement : Char := '\uFFFD'

/-- The effect of a byte where a character begins. -/
def begin (b : Nat) : List Char × Option Pending :=
  if b < 0x80 then ([Char.ofNat b], none)
  else match lead? b with
    | some p => ([], some p)
    | none => ([replacement], none)

/-- The effect of a byte: the characters it settles and what is unfinished after it. -/
def step (state : Option Pending) (b : Nat) : List Char × Option Pending :=
  match state with
  | none => begin b
  | some p =>
    if p.accepts b then
      if p.missing ≤ 1 then ([Char.ofNat (p.extend b)], none) else ([], some (p.next b))
    else
      let (cs, state') := begin b
      (replacement :: cs, state')

/-- The characters of the bytes that follow an unfinished character. -/
def run : Option Pending → List UInt8 → List Char
  | none, [] => []
  | some _, [] => [replacement]
  | state, b :: r =>
    let (cs, state') := step state b.toNat
    cs ++ run state' r

/-- The text of the bytes, with one U+FFFD for each maximal part of an ill-formed
sequence. -/
def decodeLossy (bytes : List UInt8) : String :=
  String.ofList (run none bytes)

/-- Why bytes are not UTF-8. -/
inductive Reason where
  | invalidStart
  | invalidContinuation
  | unexpectedEnd
  deriving Repr, DecidableEq

/-- The first ill-formed part: the bytes from `start` on and before `stop`, the first one
being `byte`. -/
structure Fault where
  start : Nat
  stop : Nat
  byte : UInt8
  reason : Reason
  deriving Repr, DecidableEq

/-- The machine that stops at the first ill-formed part. It keeps the position of the next
byte and, with an unfinished character, the position and value of its lead byte; the
characters read are reversed. -/
def strictRun (chars : List Char) (position : Nat) :
    Option (Pending × Nat × UInt8) → List UInt8 → Except Fault (List Char)
  | none, [] => .ok chars.reverse
  | some (_, start, lead), [] => .error ⟨start, position, lead, .unexpectedEnd⟩
  | none, b :: r =>
    if b.toNat < 0x80 then strictRun (Char.ofNat b.toNat :: chars) (position + 1) none r
    else match lead? b.toNat with
      | some p => strictRun chars (position + 1) (some (p, position, b)) r
      | none => .error ⟨position, position + 1, b, .invalidStart⟩
  | some (p, start, lead), b :: r =>
    if p.accepts b.toNat then
      if p.missing ≤ 1 then
        strictRun (Char.ofNat (p.extend b.toNat) :: chars) (position + 1) none r
      else strictRun chars (position + 1) (some (p.next b.toNat, start, lead)) r
    else .error ⟨start, position, lead, .invalidContinuation⟩

/-- The text of the bytes, or the first ill-formed part. -/
def decode (bytes : List UInt8) : Except Fault String :=
  (strictRun [] 0 none bytes).map String.ofList

def Reason.message : Reason → String
  | .invalidStart => "invalid start byte"
  | .invalidContinuation => "invalid continuation byte"
  | .unexpectedEnd => "unexpected end of data"

/-- The wording of a fault: one byte with its value, several by their positions. -/
def Fault.message (f : Fault) : String :=
  if f.stop = f.start + 1 then
    "'utf-8' codec can't decode byte 0x" ++ String.ofList (hexDigits 2 f.byte.toNat) ++
      " in position " ++ toString f.start ++ ": " ++ f.reason.message
  else
    "'utf-8' codec can't decode bytes in position " ++ toString f.start ++ "-" ++
      toString (f.stop - 1) ++ ": " ++ f.reason.message

end HdlLint.Text.Utf8
