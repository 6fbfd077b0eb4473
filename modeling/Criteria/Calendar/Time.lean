import Criteria.Calendar.Date

/-! Times of day with leap seconds, and local date-times. -/

namespace Criteria

/-- How many seconds a day has. -/
def secondsPerDay : Nat := 86400

/-- How many nanoseconds a second has. -/
def nanosecondsPerSecond : Nat := 1000000000

/--
A time of day, in whole seconds since midnight and nanoseconds.

A leap second is a second range of nanoseconds after a whole second. In the calendar that is the
last second of a minute, but a time may have one at any second.
-/
structure TimeOfDay where
  second : Nat
  nanosecond : Nat
  second_lt : second < secondsPerDay
  nanosecond_lt : nanosecond < 2 * nanosecondsPerSecond
deriving DecidableEq

namespace TimeOfDay

/-- The time at a second since midnight and a nanosecond, if there is one. -/
def of? (second nanosecond : Nat) : Option TimeOfDay :=
  if fits : second < secondsPerDay ∧ nanosecond < 2 * nanosecondsPerSecond then
    some ⟨second, nanosecond, fits.1, fits.2⟩
  else none

/-- The time with the given hour, minute, second and nanosecond, if there is one. -/
def ofClock? (hour minute second nanosecond : Nat) : Option TimeOfDay :=
  if hour < 24 ∧ minute < 60 ∧ second < 60 then
    of? (hour * 3600 + minute * 60 + second) nanosecond
  else none

/-- Times compare by second, a leap second coming after its whole minute. -/
def order (left right : TimeOfDay) : Ordering :=
  (compareOfLessAndEq left.second right.second).then
    (compareOfLessAndEq left.nanosecond right.nanosecond)

/-- A time is the time at its own second and nanosecond. -/
theorem of?_self (time : TimeOfDay) : of? time.second time.nanosecond = some time := by
  -- Both bounds are what the time itself carries.
  rw [of?, dif_pos ⟨time.second_lt, time.nanosecond_lt⟩]

end TimeOfDay

/-- A date with a time of day, in no particular time zone. -/
structure DateTime where
  date : Date
  time : TimeOfDay
deriving DecidableEq

/-- Date-times compare by date, then by time. -/
def DateTime.order (left right : DateTime) : Ordering :=
  (left.date.order right.date).then (left.time.order right.time)

end Criteria
