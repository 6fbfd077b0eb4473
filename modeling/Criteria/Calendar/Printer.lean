import Criteria.Calendar.Offset
import Criteria.Text.Numeral

/-! Dates and times as ISO 8601 text. -/

namespace Criteria

/-- A year: four digits from 0 to 9999, otherwise a sign and at least four digits. -/
def writeYear (year : Int) : List Char :=
  if 0 ≤ year ∧ year ≤ 9999 then Numeral.padded 4 year.natAbs
  else (if year < 0 then '-' else '+') :: Numeral.padded 4 year.natAbs

/-- A day as year, month and day with hyphens between them. -/
def Day.write (d : Day) : List Char :=
  writeYear d.year ++ '-' :: Numeral.padded 2 d.month ++ '-' :: Numeral.padded 2 d.day

/-- A fraction of a second: nothing, or a point and three, six or nine digits as needed. -/
def writeFraction (nanosecond : Nat) : List Char :=
  if nanosecond = 0 then []
  else if nanosecond % 1000000 = 0 then '.' :: Numeral.padded 3 (nanosecond / 1000000)
  else if nanosecond % 1000 = 0 then '.' :: Numeral.padded 6 (nanosecond / 1000)
  else '.' :: Numeral.padded 9 nanosecond

/-- A wall clock as a day and a time; a leap second counts as one second more. -/
def WallClock.write (clock : WallClock) : List Char :=
  clock.day.write ++ 'T' :: Numeral.padded 2 (clock.second / 3600)
    ++ ':' :: Numeral.padded 2 (clock.second / 60 % 60)
    -- The nanoseconds of a leap second go on past a whole second.
    ++ ':' :: Numeral.padded 2 (clock.second % 60 + clock.nanosecond / nanosecondsPerSecond)
    ++ writeFraction (clock.nanosecond % nanosecondsPerSecond)

/-- An offset as sign, hours and minutes, rounded to the nearest minute away from zero. -/
def Offset.write (offset : Offset) : List Char :=
  -- The magnitude is rounded, so both directions round alike.
  let minutes := (offset.seconds.natAbs + 30) / 60
  (if offset.seconds < 0 then '-' else '+') :: Numeral.padded 2 (minutes / 60)
    ++ ':' :: Numeral.padded 2 (minutes % 60)

/-- A date as text. -/
def Date.write (date : Date) : List Char :=
  date.toDay.write

/-- A local date-time as text. -/
def DateTime.write (moment : DateTime) : List Char :=
  moment.toWallClock.write

/-- An offset date-time as its local time and its offset. -/
def OffsetDateTime.write (moment : OffsetDateTime) : List Char :=
  moment.wallClock.write ++ moment.offset.write

end Criteria
