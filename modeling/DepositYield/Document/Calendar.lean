/-!
# Dates and times of day

Documents may hold dates and times.  A date is a day of a month of a year from 1 to
9999, a time has a date, a time of day down to microseconds and perhaps a distance
from universal time, which is less than a day.
-/

namespace DepositYield

/-- Why numbers make no date or time. -/
inductive CalendarError where
  | year (year : Nat)
  | month
  | day
  | hour
  | minute
  | second
  /-- The distance from universal time, in seconds, is a day or more. -/
  | offset (seconds : Int)
  deriving DecidableEq, Repr

/-- A day. -/
structure CalendarDate where
  year : Nat
  month : Nat
  day : Nat
  deriving DecidableEq, Repr

/-- A point in time. -/
structure CalendarTime where
  date : CalendarDate
  hour : Nat
  minute : Nat
  second : Nat
  microsecond : Nat
  /-- Seconds ahead of universal time. -/
  offset : Option Int
  deriving DecidableEq, Repr

namespace CalendarDate

/-- Whether a year has a leap day. -/
def isLeap (year : Nat) : Bool :=
  year % 4 = 0 && (year % 100 ≠ 0 || year % 400 = 0)

/-- The number of days of a month. -/
def monthLength (year month : Nat) : Nat :=
  if month = 2 then (if isLeap year then 29 else 28)
  else if [4, 6, 9, 11].contains month then 30
  else 31

/-- The date of a year, a month and a day. -/
def ofParts (year month day : Nat) : Except CalendarError CalendarDate :=
  if year < 1 ∨ 9999 < year then .error (.year year)
  else if month < 1 ∨ 12 < month then .error .month
  else if day < 1 ∨ monthLength year month < day then .error .day
  else .ok { year, month, day }

end CalendarDate

/-- The seconds of a day. -/
def secondsOfDay : Nat := 24 * 60 * 60

namespace CalendarTime

/-- A distance from universal time of less than a day. -/
def checkOffset (offset : Option Int) : Except CalendarError Unit :=
  match offset with
  | some seconds => if secondsOfDay ≤ seconds.natAbs then .error (.offset seconds) else .ok ()
  | none => .ok ()

/-- The time of a date, a time of day and a distance from universal time. -/
def ofParts (year month day hour minute second microsecond : Nat) (offset : Option Int) :
    Except CalendarError CalendarTime := do
  checkOffset offset
  let date ← CalendarDate.ofParts year month day
  if 23 < hour then .error .hour
  else if 59 < minute then .error .minute
  else if 59 < second then .error .second
  else .ok { date, hour, minute, second, microsecond, offset }

end CalendarTime

namespace CalendarError

/-- A distance in time in days and seconds, as messages show it. -/
def distanceText (seconds : Int) : String :=
  let days := seconds.fdiv secondsOfDay
  let rest := seconds.fmod secondsOfDay
  let shownDays := if days = 0 then [] else ["days=" ++ toString days]
  let shownSeconds := if rest = 0 then [] else ["seconds=" ++ toString rest]
  "datetime.timedelta(" ++ ", ".intercalate (shownDays ++ shownSeconds) ++ ")"

/-- What is said about numbers that make no date or time. -/
def message : CalendarError → String
  | .year number => "year " ++ toString number ++ " is out of range"
  | .month => "month must be in 1..12"
  | .day => "day is out of range for month"
  | .hour => "hour must be in 0..23"
  | .minute => "minute must be in 0..59"
  | .second => "second must be in 0..59"
  | .offset seconds =>
      "offset must be a timedelta strictly between -timedelta(hours=24) and " ++
        "timedelta(hours=24), not " ++ distanceText seconds ++ "."

end CalendarError

end DepositYield
