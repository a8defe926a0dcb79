import SeriesQuery.Instant
import SeriesQuery.Instant.Calendar
import SeriesQuery.Number.Decimal

/-!
# RFC 3339 texts

A date, one byte of any kind, a time of day with an optional fraction, and an offset. The fields are
read from the left and each has a fixed number of digits; the ranges of month, day, hour, minute and
second are judged when the text has been read to its end. A leap second is taken for the last
nanosecond before it, and only where one can be: at the end of a month in universal time.
-/

namespace SeriesQuery.Rfc3339

inductive Part where
  | year
  | month
  | day
  | separator
  | hour
  | minute
  | second
  | subsecond
  | offsetHour
  | offsetMinute
  deriving DecidableEq

def Part.name : Part → String
  | year => "year"
  | month => "month"
  | day => "day"
  | separator => "separator"
  | hour => "hour"
  | minute => "minute"
  | second => "second"
  | subsecond => "subsecond"
  | offsetHour => "offset hour"
  | offsetMinute => "offset minute"

inductive Flaw where
  | unreadable (part : Part)
  | wrongMark
  | trailing
  | outOfRange (part : Part)
  deriving DecidableEq

/-- The flaw as a chain of causes: it is reported once for each layer that passes it on. -/
def Flaw.causes : Flaw → List String
  | unreadable part => List.replicate 2 s!"the '{part.name}' component could not be parsed"
  | wrongMark => List.replicate 2 "a character literal was not valid"
  | trailing => List.replicate 2 "unexpected trailing characters; the end of input was expected"
  | outOfRange part => List.replicate 3 s!"{part.name} was not in range"

def isDigitByte (b : UInt8) : Bool :=
  0x30 ≤ b && b ≤ 0x39

def digitsNumber (digits : Bytes) : Nat :=
  digits.foldl (fun n b => n * 10 + (b.toNat - 0x30)) 0

/-- Exactly so many digits. -/
def readDigits (part : Part) (count : Nat) (text : Bytes) : Except Flaw (Nat × Bytes) :=
  let digits := text.take count
  if digits.length = count ∧ digits.all isDigitByte then .ok (digitsNumber digits, text.drop count)
  else .error (.unreadable part)

def readMark (mark : UInt8) (text : Bytes) : Except Flaw Bytes :=
  match text with
  | b :: rest => if b = mark then .ok rest else .error .wrongMark
  | [] => .error .wrongMark

def dash : UInt8 := 0x2D

def colon : UInt8 := 0x3A

/-- The nanoseconds of a fraction: digits past the ninth do not count. -/
def fractionNanos (digits : Bytes) : Nat :=
  let counted := digits.take 9
  digitsNumber counted * 10 ^ (9 - counted.length)

def readFraction (text : Bytes) : Except Flaw (Nat × Bytes) :=
  match text with
  | 0x2E :: rest =>
    let digits := rest.takeWhile isDigitByte
    if digits.isEmpty then .error (.unreadable .subsecond)
    else .ok (fractionNanos digits, rest.dropWhile isDigitByte)
  | rest => .ok (0, rest)

/-- The offset in minutes: the letter of universal time, or a sign with hours and minutes. -/
def readOffset (text : Bytes) : Except Flaw (Int × Bytes) :=
  let signedOffset (sign : Int) (rest : Bytes) : Except Flaw (Int × Bytes) := do
    let (hours, rest) ← readDigits .offsetHour 2 rest
    if 23 < hours then .error (.unreadable .offsetHour)
    let rest ← readMark colon rest
    let (minutes, rest) ← readDigits .offsetMinute 2 rest
    if 59 < minutes then .error (.outOfRange .offsetMinute)
    return (sign * (hours * 60 + minutes : Nat), rest)
  match text with
  | 0x5A :: rest | 0x7A :: rest => .ok (0, rest)
  | 0x2B :: rest => signedOffset 1 rest
  | 0x2D :: rest => signedOffset (-1) rest
  | _ => .error (.unreadable .offsetHour)

/-- The fields of a text in the order in which they are written. -/
structure Fields where
  year : Nat
  month : Nat
  day : Nat
  hour : Nat
  minute : Nat
  second : Nat
  nanos : Nat
  offsetMinutes : Int
  deriving DecidableEq

def readFields (text : Bytes) : Except Flaw Fields := do
  let (year, text) ← readDigits .year 4 text
  let text ← readMark dash text
  let (month, text) ← readDigits .month 2 text
  if month = 0 then .error (.unreadable .month)
  let text ← readMark dash text
  let (day, text) ← readDigits .day 2 text
  if text.isEmpty then .error (.unreadable .separator)
  let (hour, text) ← readDigits .hour 2 (text.drop 1)
  let text ← readMark colon text
  let (minute, text) ← readDigits .minute 2 text
  let text ← readMark colon text
  let (second, text) ← readDigits .second 2 text
  let (nanos, text) ← readFraction text
  let (offsetMinutes, text) ← readOffset text
  if !text.isEmpty then .error .trailing
  return { year, month, day, hour, minute, second, nanos, offsetMinutes }

namespace Fields

def isLeapSecond (f : Fields) : Bool := f.second == 60

/-- The second of the minute that stands for the fields. -/
def shownSecond (f : Fields) : Nat := if f.isLeapSecond then 59 else f.second

def shownNanos (f : Fields) : Nat := if f.isLeapSecond then 999999999 else f.nanos

def secondsOfDay (f : Fields) : Nat := f.hour * 3600 + f.minute * 60 + f.shownSecond

/-- Seconds since the start of 1970 in universal time. -/
def epochSeconds (f : Fields) : Int :=
  Calendar.dayNumber f.year f.month f.day * 86400 + f.secondsOfDay - f.offsetMinutes * 60

def toZonedTime (f : Fields) : ZonedTime :=
  { nanos := f.epochSeconds * 1000000000 + f.shownNanos, offset := f.offsetMinutes * 60 }

/-- Whether the instant is the last second of a month in universal time. An offset moves it by less
than a day, so the month ends at the start of the written one or of the one after it. -/
def endsMonth (f : Fields) : Bool :=
  let monthStart := Calendar.firstDayOfMonth f.year f.month * 86400
  let monthEnd := monthStart + Calendar.daysInMonth f.year f.month * 86400
  f.epochSeconds + 1 == monthStart || f.epochSeconds + 1 == monthEnd

def flaw? (f : Fields) : Option Part :=
  if 12 < f.month then some .month
  else if f.day = 0 ∨ Calendar.daysInMonth f.year f.month < f.day then some .day
  else if 23 < f.hour then some .hour
  else if 59 < f.minute then some .minute
  else if 59 < f.shownSecond then some .second
  else if f.isLeapSecond ∧ !f.endsMonth then some .second
  else none

end Fields

def parse (text : Bytes) : Except Flaw ZonedTime := do
  let fields ← readFields text
  match fields.flaw? with
  | some part => .error (.outOfRange part)
  | none => return fields.toZonedTime

end SeriesQuery.Rfc3339
