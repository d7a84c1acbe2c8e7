import HdlLint.Value.Basic
import HdlLint.Yaml.Cursor
import HdlLint.Yaml.Scalar.Form

/-!
# Dates and times in documents

A date is a year of four digits, a month and a day; a time may follow behind a `T` or
blanks, and a zone behind it.
-/

namespace HdlLint.Yaml

/-- The parts of a time zone: whether it lies behind universal time, its hours and its
minutes. -/
structure ZoneText where
  behind : Bool
  hours : Nat
  minutes : Nat
  deriving Repr, DecidableEq

/-- The parts of a time. The digits of the fraction of a second may be missing. -/
structure ClockText where
  hour : Nat
  minute : Nat
  second : Nat
  fraction : List Char
  zone : Option ZoneText
  deriving Repr, DecidableEq

/-- The parts of a date with an optional time. The flag tells whether month and day have
two digits. -/
structure TimeText where
  year : Nat
  month : Nat
  day : Nat
  full : Bool
  clock : Option ClockText
  deriving Repr, DecidableEq

namespace TimeText

/-- Reads digits, at least and at most so many; also tells how many there were. -/
def takeNumber? (least most : Nat) (s : List Char) : Option (Nat × Nat × List Char) :=
  let run := (s.take most).takeWhile Text.isAsciiDigit
  if run.length < least then none
  else some (Text.ofDigits 10 (run.map fun c => c.toNat - 0x30),
    run.length, s.drop run.length)

def after? (c : Char) : List Char → Option (List Char)
  | [] => none
  | x :: r => if x = c then some r else none

/-- Reads a zone, or nothing, up to the end. -/
def zone? (s : List Char) : Option (Option ZoneText) :=
  match s with
  | [] => some none
  | _ =>
    match s.dropWhile fun c => c = ' ' || c = '\t' with
    | ['Z'] => some (some ⟨false, 0, 0⟩)
    | sign :: r =>
      if sign = '+' || sign = '-' then do
        let (hours, _, r) ← takeNumber? 1 2 r
        match r with
        | [] => some (some ⟨sign = '-', hours, 0⟩)
        | _ =>
          let (minutes, _, r) ← takeNumber? 2 2 (← after? ':' r)
          if r.isEmpty then some (some ⟨sign = '-', hours, minutes⟩) else none
      else none
    | [] => none

/-- Reads what stands between a date and its time. -/
def separator? (s : List Char) : Option (List Char) :=
  match s with
  | [] => none
  | c :: r =>
    if c = 'T' || c = 't' then some r
    else if c = ' ' || c = '\t' then some (r.dropWhile fun c => c = ' ' || c = '\t')
    else none

/-- Reads a time up to the end. -/
def clock? (s : List Char) : Option ClockText := do
  let (hour, _, r) ← takeNumber? 1 2 s
  let (minute, _, r) ← takeNumber? 2 2 (← after? ':' r)
  let (second, _, r) ← takeNumber? 2 2 (← after? ':' r)
  let (fraction, r) := match r with
    | '.' :: r => (r.takeWhile Text.isAsciiDigit, r.dropWhile Text.isAsciiDigit)
    | _ => ([], r)
  let zone ← zone? r
  pure ⟨hour, minute, second, fraction, zone⟩

/-- Reads a date with an optional time. -/
def parse? (s : List Char) : Option TimeText := do
  let (year, _, r) ← takeNumber? 4 4 s
  let (month, m, r) ← takeNumber? 1 2 (← after? '-' r)
  let (day, d, r) ← takeNumber? 1 2 (← after? '-' r)
  let full := m = 2 && d = 2
  match r with
  | [] => pure ⟨year, month, day, full, none⟩
  | _ => pure ⟨year, month, day, full, some (← clock? (← separator? r))⟩

end TimeText

/-- The form of a date or time. A date alone has all its digits. -/
def Form.isTime (s : List Char) : Bool :=
  (TimeText.parse? s).any fun t => t.full || t.clock.isSome

/-- The crash of a date or time out of range. -/
def outOfRange (message : String) : DocumentFault :=
  .crash (.of .value message)

/-- The date of a year, month and day. -/
def checkDate (t : TimeText) : Except DocumentFault Date :=
  if t.year = 0 then .error (outOfRange "year 0 is out of range")
  else if t.month = 0 || 12 < t.month then .error (outOfRange "month must be in 1..12")
  else if t.day = 0 || Date.daysInMonth t.year t.month < t.day then
    .error (outOfRange "day is out of range for month")
  else .ok ⟨t.year, t.month, t.day⟩

/-- The millionths of a second that the digits of a fraction stand for. Digits past the
sixth say nothing. -/
def microseconds (fraction : List Char) : Nat :=
  let digits := fraction.take 6
  Text.ofDigits 10 (digits.map fun c => c.toNat - 0x30) * Nat.pow 10 (6 - digits.length)

/-- A difference of times as a message shows it: whole days, and the seconds above
them. -/
def differenceText (minutes : Int) : String :=
  let days := minutes / 1440
  let seconds := minutes % 1440 * 60
  let parts :=
    (if days = 0 then [] else ["days=" ++ toString days]) ++
      (if seconds = 0 then [] else ["seconds=" ++ toString seconds])
  "datetime.timedelta(" ++ ", ".intercalate parts ++ ")"

/-- The minutes by which a zone is ahead of universal time, which have to be fewer than
those of a day. -/
def checkZone (z : ZoneText) : Except DocumentFault Int :=
  let minutes : Int := z.hours * 60 + z.minutes
  let minutes := if z.behind then -minutes else minutes
  if 1440 ≤ minutes.natAbs then
    .error (outOfRange
      ("offset must be a timedelta strictly between -timedelta(hours=24) and " ++
        "timedelta(hours=24), not " ++ differenceText minutes ++ "."))
  else .ok minutes

/-- The date or time that a scalar stands for. A line feed at its end does not count. -/
def timeOfText (s : String) : Except DocumentFault Value := do
  match TimeText.parse? (Form.dropFinalBreak s.toList) with
  | none => throw (.crash (.of .property "'NoneType' object has no attribute 'groupdict'"))
  | some t =>
    match t.clock with
    | none => pure (.date (← checkDate t))
    | some k =>
      let offset ← k.zone.mapM checkZone
      let date ← checkDate t
      if 23 < k.hour then throw (outOfRange "hour must be in 0..23")
      if 59 < k.minute then throw (outOfRange "minute must be in 0..59")
      if 59 < k.second then throw (outOfRange "second must be in 0..59")
      pure (.time ⟨date, k.hour, k.minute, k.second, microseconds k.fraction, offset⟩)

end HdlLint.Yaml
