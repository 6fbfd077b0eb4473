import Criteria.Proofs.Calendar.Reading

/-! Moving a wall clock by an offset and back, and the instant at which a clock shows a date-time. -/

namespace Criteria

/-- Every month has at least 28 days. -/
theorem le_daysInMonth (year : Int) {month : Nat} (first : 1 ≤ month) (last : month ≤ 12) :
    28 ≤ daysInMonth year month := by
  -- Only February depends on the year, and it is the shortest in any case.
  unfold daysInMonth
  split
  · split <;> decide
  all_goals try decide
  -- What is none of the twelve is no month.
  simp only [imp_false] at *
  omega

namespace Day

variable {day : Day}

/-- The day after a real day is real. -/
theorem isReal_next (real : day.IsReal) : day.next.IsReal := by
  -- The three branches are another day of the month, another month and another year.
  obtain ⟨first, last, -, -⟩ := real
  unfold next
  split
  · -- Within a month, the day of the month is still one of it.
    rename_i before
    exact ⟨first, last, by simp, before⟩
  split
  · -- The first of a month is a day of it.
    rename_i earlier
    have days := le_daysInMonth day.year (by omega : 1 ≤ day.month + 1) earlier
    exact ⟨by simp, earlier, le_rfl, by simp only; omega⟩
  · -- The first of January is a day of every year.
    exact ⟨le_rfl, by simp, le_rfl, by simp [daysInMonth]⟩

/-- The day before a real day is real. -/
theorem isReal_previous (real : day.IsReal) : day.previous.IsReal := by
  -- The three branches are another day of the month, another month and another year.
  obtain ⟨first, last, -, within⟩ := real
  unfold previous
  split
  · -- Within a month, the day of the month is still one of it.
    exact ⟨first, last, by simp only; omega, by simp only; omega⟩
  split
  · -- The last day of a month is a day of it.
    have days := le_daysInMonth day.year (by omega : 1 ≤ day.month - 1) (by omega)
    exact ⟨by simp only; omega, by simp only; omega, by simp only; omega, le_rfl⟩
  · -- The last of December is a day of every year.
    exact ⟨by simp, le_rfl, by simp, by simp [daysInMonth]⟩

/-- The day before the day after a real day is the day itself. -/
theorem previous_next (real : day.IsReal) : day.next.previous = day := by
  -- How the day after was reached decides how the way back goes.
  obtain ⟨year, month, dayOfMonth⟩ := day
  obtain ⟨first, last, positive, within⟩ := real
  simp only at first last positive within
  unfold next
  split
  · -- Within a month, the day of the month goes up and down again.
    rw [previous, if_pos (by simp only; omega)]
    simp
  rename_i notBefore
  simp only at notBefore
  have lastDay : dayOfMonth = daysInMonth year month := by omega
  split
  · -- The first of a month follows the last day of the one before.
    rw [previous, if_neg (by simp), if_pos (by simp only; omega)]
    simp [lastDay]
  · -- The first of January follows the last of December.
    rename_i notEarlier
    have december : month = 12 := by simp only at notEarlier; omega
    subst december
    rw [previous, if_neg (by simp), if_neg (by simp)]
    simp [lastDay, daysInMonth]

/-- The day after the day before a real day is the day itself. -/
theorem next_previous (real : day.IsReal) : day.previous.next = day := by
  -- How the day before was reached decides how the way forth goes.
  obtain ⟨year, month, dayOfMonth⟩ := day
  obtain ⟨first, last, positive, within⟩ := real
  simp only at first last positive within
  unfold previous
  split
  · -- Within a month, the day of the month goes down and up again.
    rename_i later
    simp only at later
    rw [next, if_pos (by simp only; omega)]
    simp only [mk.injEq, true_and]
    omega
  rename_i notLater
  have firstDay : dayOfMonth = 1 := by simp only at notLater; omega
  split
  · -- The last day of a month is followed by the first of the next one.
    rename_i later
    simp only at later
    rw [next, if_neg (by simp), if_pos (by simp only; omega)]
    simp only [mk.injEq, true_and]
    omega
  · -- The last of December is followed by the first of January.
    rename_i notLater'
    have january : month = 1 := by simp only at notLater'; omega
    subst january firstDay
    rw [next, if_neg (by simp [daysInMonth]), if_neg (by simp)]
    simp

/-- The next day is in the same year or in the next one. -/
theorem year_next (day : Day) : day.next.year = day.year ∨ day.next.year = day.year + 1 := by
  -- Only the last branch leaves the year.
  unfold next
  split
  · exact .inl rfl
  · split
    · exact .inl rfl
    · exact .inr rfl

/-- The day before is in the same year or in the one before. -/
theorem year_previous (day : Day) :
    day.previous.year = day.year ∨ day.previous.year = day.year - 1 := by
  -- Only the last branch leaves the year.
  unfold previous
  split
  · exact .inl rfl
  · split
    · exact .inl rfl
    · exact .inr rfl

end Day

namespace WallClock

variable {clock : WallClock} {seconds : Int}

/-- A clock moved by less than a day shows the same day, the next one or the one before, at the
second that is as many seconds away. -/
theorem shift_cases (clock : WallClock) (seconds : Int) :
    (clock.shift seconds = ⟨clock.day.previous,
        (clock.second + seconds + secondsPerDay).toNat, clock.nanosecond⟩ ∧
      clock.second + seconds < 0) ∨
    (clock.shift seconds = ⟨clock.day, (clock.second + seconds).toNat, clock.nanosecond⟩ ∧
      0 ≤ clock.second + seconds ∧ clock.second + seconds < secondsPerDay) ∨
    (clock.shift seconds = ⟨clock.day.next,
        (clock.second + seconds - secondsPerDay).toNat, clock.nanosecond⟩ ∧
      secondsPerDay ≤ clock.second + seconds) := by
  -- The three branches are those of the function itself, by where the seconds end up.
  unfold shift
  simp only
  split
  · rename_i before
    exact .inl ⟨rfl, before⟩
  split
  · rename_i notBefore within
    exact .inr (.inl ⟨rfl, by omega, within⟩)
  · rename_i notBefore notWithin
    exact .inr (.inr ⟨rfl, by omega⟩)

/-- A clock that is moved goes on showing a real day. -/
theorem isReal_day_shift (real : clock.day.IsReal) (seconds : Int) :
    (clock.shift seconds).day.IsReal := by
  -- The day is the one before, the same one or the one after.
  rcases clock.shift_cases seconds with ⟨same, -⟩ | ⟨same, -⟩ | ⟨same, -⟩ <;> rw [same]
  · exact Day.isReal_previous real
  · exact real
  · exact Day.isReal_next real

/-- A clock that is moved shows the nanoseconds that it showed before. -/
theorem nanosecond_shift (clock : WallClock) (seconds : Int) :
    (clock.shift seconds).nanosecond = clock.nanosecond := by
  -- None of the three branches touches them.
  rcases clock.shift_cases seconds with ⟨same, -⟩ | ⟨same, -⟩ | ⟨same, -⟩ <;> rw [same]

/-- A clock that is moved by less than a day stays within a year of what it showed before. -/
theorem year_shift (clock : WallClock) (seconds : Int) :
    clock.day.year - 1 ≤ (clock.shift seconds).day.year ∧
      (clock.shift seconds).day.year ≤ clock.day.year + 1 := by
  -- The day is at most one away, and so the year is too.
  have before := clock.day.year_previous
  have behind := clock.day.year_next
  rcases clock.shift_cases seconds with ⟨same, -⟩ | ⟨same, -⟩ | ⟨same, -⟩ <;> rw [same] <;>
    simp only <;> omega

section WithinDay

variable (below : clock.second < secondsPerDay) (earlier : -(secondsPerDay : Int) < seconds)
  (later : seconds < secondsPerDay)

include below earlier later

/-- A clock that is moved by less than a day shows a second of a day. -/
theorem second_shift_lt : (clock.shift seconds).second < secondsPerDay := by
  -- Going over midnight takes the seconds back into the day.
  rcases clock.shift_cases seconds with ⟨same, range⟩ | ⟨same, range⟩ | ⟨same, range⟩ <;>
    rw [same] <;> simp only <;> omega

/-- A clock that is moved by less than a day is moved by as many seconds, but for whole days. -/
theorem second_shift_emod :
    ((clock.shift seconds).second : Int) % secondsPerDay =
      (clock.second + seconds) % secondsPerDay := by
  -- Going over midnight adds or takes away a whole day of seconds.
  rcases clock.shift_cases seconds with ⟨same, range⟩ | ⟨same, range⟩ | ⟨same, range⟩ <;>
    rw [same] <;> simp only [secondsPerDay] at * <;> omega

/-- Moving a clock by less than a day and back again leaves it as it was. -/
theorem shift_shift_neg (real : clock.day.IsReal) :
    (clock.shift seconds).shift (-seconds) = clock := by
  -- How the clock was moved decides whether the way back goes over midnight.
  obtain ⟨day, second, nanosecond⟩ := clock
  simp only at below real
  rcases shift_cases ⟨day, second, nanosecond⟩ seconds with
    ⟨same, range⟩ | ⟨same, range⟩ | ⟨same, range⟩ <;> simp only at range <;> rw [same]
  · -- What went back over midnight comes forward over it.
    rw [shift, if_neg (by simp only; omega), if_neg (by simp only; omega)]
    simp only [mk.injEq, and_true, Day.next_previous real, true_and]
    omega
  · -- Within the day, the seconds go there and back.
    rw [shift, if_neg (by simp only; omega), if_pos (by simp only; omega)]
    simp only [mk.injEq, and_true, true_and]
    omega
  · -- What went forward over midnight comes back over it.
    rw [shift, if_pos (by simp only; omega)]
    simp only [mk.injEq, and_true, Day.previous_next real, true_and]
    omega

end WithinDay

/-- A clock that shows a real day and time goes on doing so when it is moved by less than a day. -/
theorem IsReal.shift (real : clock.IsReal) (earlier : -(secondsPerDay : Int) < seconds)
    (later : seconds < secondsPerDay) : (clock.shift seconds).IsReal where
  -- The day changes by one at most, and the fraction of the second not at all.
  day := isReal_day_shift real.day seconds
  second_lt := second_shift_lt real.second_lt earlier later
  nanosecond_lt := by
    rw [nanosecond_shift]
    exact real.nanosecond_lt

end WallClock

namespace OffsetDateTime

variable {shown : DateTime} {offset : Offset}

/-- The instant of a local date-time at an offset is the one whose clock shows the date-time at
that offset. -/
theorem ofLocal?_eq_some_iff {moment : OffsetDateTime} :
    ofLocal? shown offset = some moment ↔
      moment.offset = offset ∧ moment.wallClock = shown.toWallClock := by
  -- The instant is found by moving the clock back by the offset.
  have above := offset.above
  have below := offset.below
  rw [ofLocal?, Option.map_eq_some_iff]
  simp only [WallClock.toDateTime?_eq_some_iff]
  constructor
  · -- The clock goes back by the offset and forth again.
    rintro ⟨utc, same, rfl⟩
    have real := shown.isReal_toWallClock
    have back := @WallClock.shift_shift_neg _ (-offset.seconds) real.second_lt (by omega)
      (by omega) real.day
    rw [Int.neg_neg] at back
    exact ⟨rfl, by rw [wallClock, same]; exact back⟩
  · -- From an instant, moving its clock back by the offset leads to universal time.
    rintro ⟨rfl, same⟩
    have real := moment.utc.isReal_toWallClock
    have back := WallClock.shift_shift_neg real.second_lt above below real.day
    exact ⟨moment.utc, by rw [← same]; exact back.symm, rfl⟩

/-- A local date-time at an offset is an instant, unless its year is the first or the last one of
dates. -/
theorem exists_ofLocal? (first : firstYear < shown.date.toDay.year)
    (last : shown.date.toDay.year < lastYear) :
    ∃ moment, ofLocal? shown offset = some moment := by
  have above := offset.above
  have below := offset.below
  -- Moving the clock changes its year by at most one.
  have real := @WallClock.IsReal.shift _ (-offset.seconds) shown.isReal_toWallClock (by omega)
    (by omega)
  obtain ⟨least, most⟩ := shown.toWallClock.year_shift (-offset.seconds)
  have same : shown.toWallClock.day.year = shown.date.toDay.year := rfl
  obtain ⟨utc, instant⟩ := real.exists_toDateTime? (by omega) (by omega)
  exact ⟨⟨utc, offset⟩, by rw [ofLocal?, instant, Option.map_some]⟩

end OffsetDateTime

end Criteria
