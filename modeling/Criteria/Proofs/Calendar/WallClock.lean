import Criteria.Calendar.Printer

/-! What wall clocks show: real days and times, and leap seconds that are told as the second after. -/

namespace Criteria

namespace WallClock

variable {clock : WallClock}

/-- A wall clock shows a day of the calendar and a time of day. -/
structure IsReal (clock : WallClock) : Prop where
  day : clock.day.IsReal
  second_lt : clock.second < secondsPerDay
  nanosecond_lt : clock.nanosecond < 2 * nanosecondsPerSecond

/-- If a wall clock shows a leap second, it is one that ends a minute. -/
def LeapsLast (clock : WallClock) : Prop :=
  nanosecondsPerSecond ≤ clock.nanosecond → clock.second % 60 = 59

instance (clock : WallClock) : Decidable clock.LeapsLast :=
  inferInstanceAs (Decidable (_ → _))

/-- A wall clock whose leap second, unless it ends a minute, is told as the second after. -/
def settled (clock : WallClock) : WallClock :=
  if clock.LeapsLast then clock
  else ⟨clock.day, clock.second + 1, clock.nanosecond - nanosecondsPerSecond⟩

/-- A settled clock shows the same day. -/
theorem day_settled (clock : WallClock) : clock.settled.day = clock.day := by
  -- Only the second and the nanoseconds may change.
  unfold settled
  split <;> rfl

/-- A leap second that does not end its minute has a whole second before it and one after it. -/
theorem of_not_leapsLast (inside : ¬clock.LeapsLast) :
    nanosecondsPerSecond ≤ clock.nanosecond ∧ clock.second % 60 ≠ 59 :=
  -- A clock that does not leap last is in a leap second that ends no minute.
  Classical.not_imp.mp inside

/-- A clock that keeps its nanoseconds is settled. -/
theorem settled_eq_of_nanosecond (same : clock.settled.nanosecond = clock.nanosecond) :
    clock.settled = clock := by
  -- Settling moves leap seconds within a minute only.
  unfold settled at *
  split at same
  · rename_i last
    exact if_pos last
  · -- A leap second that is moved has fewer of them.
    rename_i inside
    have leap := (of_not_leapsLast inside).1
    rw [nanosecondsPerSecond] at *
    simp only at same
    omega

/-- A clock is settled exactly if it shows no leap second but one that ends a minute. -/
theorem settled_eq_iff : clock.settled = clock ↔ clock.LeapsLast := by
  refine ⟨fun same => Decidable.byContradiction fun inside => ?_, fun last => if_pos last⟩
  -- What is moved shows another second.
  rw [settled, if_neg inside] at same
  have second := congrArg WallClock.second same
  simp only at second
  omega

/-- A settled clock shows no leap second but one that ends a minute. -/
theorem leapsLast_settled (fits : clock.nanosecond < 2 * nanosecondsPerSecond) :
    clock.settled.LeapsLast := by
  -- Either nothing was changed, or the leap second is told as the second after.
  unfold settled
  split
  · assumption
  · -- What is left of a leap second is less than a second.
    intro leap
    rw [nanosecondsPerSecond] at *
    simp only at leap
    omega

/-- A settled clock is written in the same way. -/
theorem write_settled (fits : clock.nanosecond < 2 * nanosecondsPerSecond) :
    clock.settled.write = clock.write := by
  -- A leap second is written as one second more, whichever second it follows.
  unfold settled
  split
  · rfl
  · rename_i inside
    obtain ⟨leap, notLast⟩ := of_not_leapsLast inside
    rw [nanosecondsPerSecond] at *
    -- Within a minute, one second more changes neither the hour nor the minute.
    have hour : (clock.second + 1) / 3600 = clock.second / 3600 := by omega
    have minute : (clock.second + 1) / 60 % 60 = clock.second / 60 % 60 := by omega
    have second : (clock.second + 1) % 60 + (clock.nanosecond - 1000000000) / 1000000000 =
        clock.second % 60 + clock.nanosecond / 1000000000 := by omega
    have fraction : (clock.nanosecond - 1000000000) % 1000000000 =
        clock.nanosecond % 1000000000 := by omega
    simp only [write, nanosecondsPerSecond, hour, minute, second, fraction]

/-- The settled clock of a real day and time shows a real day and time. -/
theorem IsReal.settled (real : clock.IsReal) : clock.settled.IsReal := by
  -- Only the time may change, and it stays within its bounds.
  obtain ⟨day, second, nanosecond⟩ := real
  unfold WallClock.settled
  split
  · exact ⟨day, second, nanosecond⟩
  · -- The last second of a day ends a minute, so the second after is one of the day.
    rename_i inside
    obtain ⟨-, notLast⟩ := of_not_leapsLast inside
    refine ⟨day, ?_, Nat.lt_of_le_of_lt (Nat.sub_le _ _) nanosecond⟩
    rw [secondsPerDay] at *
    simp only
    omega

end WallClock

/-- A date-time has a date and a time of day. -/
theorem DateTime.isReal_toWallClock (moment : DateTime) : moment.toWallClock.IsReal :=
  -- What makes a clock real is what the date and the time carry.
  ⟨moment.date.isReal, moment.time.second_lt, moment.time.nanosecond_lt⟩

/-- A date-time is what its own wall clock shows. -/
theorem DateTime.toDateTime?_toWallClock (moment : DateTime) :
    moment.toWallClock.toDateTime? = some moment := by
  -- The date and the time are found again, each from its own numbers.
  rw [WallClock.toDateTime?, toWallClock, Date.ofDay?_toDay, TimeOfDay.of?_self]

namespace WallClock

variable {clock : WallClock}

/-- A date-time is the one of a clock exactly if the clock shows it. -/
theorem toDateTime?_eq_some_iff {moment : DateTime} :
    clock.toDateTime? = some moment ↔ moment.toWallClock = clock := by
  -- A date-time and a wall clock hold the same numbers.
  constructor
  · -- Both parts are made of what the clock shows, within their bounds.
    intro shown
    unfold toDateTime? Date.ofDay? TimeOfDay.of? at shown
    split at shown
    · rename_i date time ofDay ofTime
      simp only [Option.dite_none_right_eq_some, Option.some.injEq] at ofDay ofTime
      obtain ⟨_, _, rfl⟩ := ofDay
      obtain ⟨_, rfl⟩ := ofTime
      cases shown
      rfl
    · cases shown
  · rintro rfl
    exact moment.toDateTime?_toWallClock

/-- A clock that shows a real day and time has a date-time, if its year is one of dates. -/
theorem IsReal.exists_toDateTime? (real : clock.IsReal) (first : firstYear ≤ clock.day.year)
    (last : clock.day.year ≤ lastYear) : ∃ moment, clock.toDateTime? = some moment :=
  -- Only the years of dates are bounded further than those of real days.
  ⟨⟨⟨clock.day, real.day, first, last⟩, ⟨clock.second, clock.nanosecond, real.second_lt,
    real.nanosecond_lt⟩⟩, toDateTime?_eq_some_iff.mpr rfl⟩

end WallClock

namespace DateTime

/-- Date-times that a clock shows alike are the same one. -/
theorem toWallClock_inj {left right : DateTime} :
    left.toWallClock = right.toWallClock ↔ left = right := by
  -- Two date-times with one clock are the date-time found from it.
  rw [← WallClock.toDateTime?_eq_some_iff, toDateTime?_toWallClock, Option.some_inj, eq_comm]

/-- The settled clock of a date-time has a date-time. -/
theorem exists_toWallClock_eq_settled (moment : DateTime) :
    ∃ other : DateTime, other.toWallClock = moment.toWallClock.settled := by
  -- It shows the same day, and so a year of dates.
  have day : moment.toWallClock.settled.day = moment.date.toDay := WallClock.day_settled _
  obtain ⟨other, shown⟩ := moment.isReal_toWallClock.settled.exists_toDateTime?
    (by rw [day]; exact moment.date.first_le) (by rw [day]; exact moment.date.le_last)
  exact ⟨other, WallClock.toDateTime?_eq_some_iff.mp shown⟩

end DateTime

end Criteria
