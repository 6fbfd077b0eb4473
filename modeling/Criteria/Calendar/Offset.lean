import Criteria.Calendar.Time

/-! Date-times at a fixed offset from universal time. -/

namespace Criteria

/-- What a wall clock shows: a day, the seconds since midnight and the nanoseconds. -/
structure WallClock where
  day : Day
  second : Nat
  nanosecond : Nat
deriving DecidableEq

namespace WallClock

/-- The wall clock moved by less than a day, its nanoseconds untouched. -/
def shift (clock : WallClock) (seconds : Int) : WallClock :=
  let total := (clock.second : Int) + seconds
  -- The clock passes midnight once at most, backwards or forwards.
  if total < 0 then
    ⟨clock.day.previous, (total + secondsPerDay).toNat, clock.nanosecond⟩
  else if total < secondsPerDay then
    ⟨clock.day, total.toNat, clock.nanosecond⟩
  else
    ⟨clock.day.next, (total - secondsPerDay).toNat, clock.nanosecond⟩

/-- The date-time that a wall clock shows, if its day and its time are in range. -/
def toDateTime? (clock : WallClock) : Option DateTime :=
  match Date.ofDay? clock.day, TimeOfDay.of? clock.second clock.nanosecond with
  | some date, some time => some ⟨date, time⟩
  | _, _ => none

end WallClock

/-- The wall clock that shows a date-time. -/
def DateTime.toWallClock (moment : DateTime) : WallClock :=
  ⟨moment.date.toDay, moment.time.second, moment.time.nanosecond⟩

/-- A number of seconds east of universal time, less than a day either way. -/
structure Offset where
  seconds : Int
  above : -(secondsPerDay : Int) < seconds
  below : seconds < secondsPerDay
deriving DecidableEq

/-- The offset of that many seconds, if it is less than a day. -/
def Offset.of? (seconds : Int) : Option Offset :=
  if bounds : -(secondsPerDay : Int) < seconds ∧ seconds < secondsPerDay then
    some ⟨seconds, bounds.1, bounds.2⟩
  else none

/-- An instant, as its date-time in universal time, and the offset it is shown at. -/
structure OffsetDateTime where
  utc : DateTime
  offset : Offset
deriving DecidableEq

namespace OffsetDateTime

/--
What a clock at the offset shows.

Its day may lie one day outside the range of dates.
-/
def wallClock (moment : OffsetDateTime) : WallClock :=
  moment.utc.toWallClock.shift moment.offset.seconds

/-- The instant at which a clock at the offset shows a date-time, if it is in range. -/
def ofLocal? (shown : DateTime) (offset : Offset) : Option OffsetDateTime :=
  -- Universal time is what the clock shows less the offset, and may be out of range.
  (shown.toWallClock.shift (-offset.seconds)).toDateTime?.map fun utc => ⟨utc, offset⟩

/-- Offset date-times compare by instant, whatever their offsets. -/
def order (left right : OffsetDateTime) : Ordering :=
  left.utc.order right.utc

end OffsetDateTime

end Criteria
