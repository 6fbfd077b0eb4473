/-! Days of the proleptic Gregorian calendar, and the dates that the library holds. -/

namespace Criteria

/-- A year, month and day as written, real or not. -/
structure Day where
  year : Int
  month : Nat
  day : Nat
deriving DecidableEq

/-- Whether a year has a 29th of February. -/
def isLeapYear (year : Int) : Bool :=
  -- Centuries are common years, except every fourth.
  year % 4 = 0 && (year % 100 ≠ 0 || year % 400 = 0)

/-- How many days a month has, none for what is not a month. -/
def daysInMonth (year : Int) : Nat → Nat
  | 2 => if isLeapYear year then 29 else 28
  | 4 | 6 | 9 | 11 => 30
  | 1 | 3 | 5 | 7 | 8 | 10 | 12 => 31
  | _ => 0

namespace Day

/-- Whether the calendar has this day. -/
def IsReal (d : Day) : Prop :=
  1 ≤ d.month ∧ d.month ≤ 12 ∧ 1 ≤ d.day ∧ d.day ≤ daysInMonth d.year d.month

instance (d : Day) : Decidable d.IsReal :=
  inferInstanceAs (Decidable (_ ∧ _ ∧ _ ∧ _))

/-- The day after a real day. -/
def next (d : Day) : Day :=
  if d.day < daysInMonth d.year d.month then ⟨d.year, d.month, d.day + 1⟩
  else if d.month < 12 then ⟨d.year, d.month + 1, 1⟩
  -- The last day of December is followed by that of another year.
  else ⟨d.year + 1, 1, 1⟩

/-- The day before a real day. -/
def previous (d : Day) : Day :=
  if 1 < d.day then ⟨d.year, d.month, d.day - 1⟩
  -- Before the first of a month comes the last of the month before.
  else if 1 < d.month then ⟨d.year, d.month - 1, daysInMonth d.year (d.month - 1)⟩
  else ⟨d.year - 1, 12, 31⟩

/-- Days compare by year, then month, then day. -/
def order (left right : Day) : Ordering :=
  (compareOfLessAndEq left.year right.year).then <|
    (compareOfLessAndEq left.month right.month).then (compareOfLessAndEq left.day right.day)

end Day

/-- The first year that a date may have. -/
def firstYear : Int := -262143

/-- The last year that a date may have. -/
def lastYear : Int := 262142

/-- A real day of a year in range. -/
structure Date where
  toDay : Day
  isReal : toDay.IsReal
  first_le : firstYear ≤ toDay.year
  le_last : toDay.year ≤ lastYear
deriving DecidableEq

namespace Date

/-- The date of a day, if it is real and its year is in range. -/
def ofDay? (d : Day) : Option Date :=
  if isReal : d.IsReal then
    if range : firstYear ≤ d.year ∧ d.year ≤ lastYear then
      some ⟨d, isReal, range.1, range.2⟩
    else none
  else none

/-- Dates compare as their days do. -/
def order (left right : Date) : Ordering :=
  left.toDay.order right.toDay

/-- A date is the date of its own day. -/
theorem ofDay?_toDay (date : Date) : ofDay? date.toDay = some date := by
  -- Both conditions are what the date itself carries.
  simp [ofDay?, date.isReal, date.first_le, date.le_last]

end Date

end Criteria
