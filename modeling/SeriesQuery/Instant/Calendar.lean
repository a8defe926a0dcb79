/-!
# The calendar

Dates of the proleptic Gregorian calendar as day numbers: day zero is the first of January 1970.
Months count from one.
-/

namespace SeriesQuery.Calendar

def isLeapYear (year : Int) : Bool :=
  year % 4 == 0 && (year % 100 != 0 || year % 400 == 0)

def daysInMonth (year : Int) (month : Nat) : Nat :=
  if month = 2 then if isLeapYear year then 29 else 28
  else if month = 4 ∨ month = 6 ∨ month = 9 ∨ month = 11 then 30
  else 31

/-- The days of the months before one, in its year. -/
def daysBeforeMonth (year : Int) (month : Nat) : Nat :=
  (List.range' 1 (month - 1)).foldl (fun days m => days + daysInMonth year m) 0

/-- The day number of the first of January. -/
def firstDayOfYear (year : Int) : Int :=
  let past := year - 1
  365 * past + past / 4 - past / 100 + past / 400 - 719162

def firstDayOfMonth (year : Int) (month : Nat) : Int :=
  firstDayOfYear year + daysBeforeMonth year month

def dayNumber (year : Int) (month day : Nat) : Int :=
  firstDayOfMonth year month + (day - 1 : Int)

end SeriesQuery.Calendar
