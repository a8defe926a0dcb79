import SeriesQuery.Cell

/-!
# Instants

Two ways to hold an instant, a clock reading as a distance from the start of 1970 and a local time
with its offset, and the timestamp cells they become. Both round towards the past. A clock can be
further away than a timestamp reaches, so its cell stops at the bounds.
-/

namespace SeriesQuery

/-- A distance from the start of 1970, before or after it. -/
structure ClockReading where
  before : Bool
  seconds : UInt64
  nanos : Fin 1000000000

/-- An instant as nanoseconds since the start of 1970 in universal time, and the offset in seconds
of the clock that shows it. -/
structure ZonedTime where
  nanos : Int
  offset : Int

def millisPerSecond : Nat := 1000

def nanosPerMilli : Nat := 1000000

namespace ClockReading

/-- Whole milliseconds of the distance. -/
def wholeMillis (r : ClockReading) : Nat :=
  r.seconds.toNat * millisPerSecond + r.nanos.val / nanosPerMilli

/-- The timestamp: before 1970 a started millisecond counts as a whole one. -/
def toMillis (r : ClockReading) : Int64 :=
  if r.before then
    let millis := r.wholeMillis + if r.nanos.val % nanosPerMilli = 0 then 0 else 1
    if millis < 2 ^ 63 then Int64.ofInt (-millis) else Int64.minValue
  else if r.wholeMillis < 2 ^ 63 then Int64.ofNat r.wholeMillis
  else Int64.maxValue

end ClockReading

def ZonedTime.toMillis (t : ZonedTime) : Int64 :=
  Int64.ofInt (t.nanos / nanosPerMilli)

namespace Cell

def ofClockReading (r : ClockReading) : Cell :=
  timestamp r.toMillis

def ofZonedTime (t : ZonedTime) : Cell :=
  timestamp t.toMillis

end Cell

end SeriesQuery
