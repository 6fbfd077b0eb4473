import Criteria.Proofs.Calendar.Offsets
import Criteria.Proofs.Calendar.Shifting

/-! Offset date-times read back from how they are written: which ones are, and what the others
become. -/

namespace Criteria

open Numeral (IsRun)

/-- A digit takes one byte. -/
theorem utf8Size_of_isDigit {c : Char} (isDigit : c.isDigit = true) : c.utf8Size = 1 := by
  -- Digits are among the characters that fit a single byte.
  rw [Char.utf8Size_eq_one_iff, UInt32.le_iff_toNat_le]
  exact le_trans (Numeral.toNat_of_isDigit isDigit).2 (by decide)

/-- Behind characters of one byte each, a character starts at the byte of its place. -/
theorem characterAtByte?_length {before : List Char} (oneByte : ∀ c ∈ before, c.utf8Size = 1)
    (c : Char) (rest : List Char) :
    characterAtByte? (before ++ c :: rest) before.length = some c := by
  -- Each character takes one byte and one place, so the two counts go together.
  induction before with
  | nil => rfl
  | cons first before ih =>
    obtain ⟨one, others⟩ := List.forall_mem_cons.mp oneByte
    rw [List.cons_append, List.length_cons, characterAtByte?, one, if_pos (by omega),
      Nat.add_sub_cancel, ih others]
    exact Nat.succ_ne_zero _

/-- Behind a day whose fields all have their full width, the next character starts at the eleventh
byte. -/
theorem characterAtByte?_day {year month day : List Char} (isYear : IsRun 4 year)
    (isMonth : IsRun 2 month) (isDay : IsRun 2 day) (c : Char) (rest : List Char) :
    characterAtByte? (year ++ '-' :: (month ++ '-' :: (day ++ c :: rest))) 10 = some c := by
  -- The day takes ten characters, digits and hyphens, of one byte each.
  have length : (year ++ '-' :: (month ++ '-' :: day)).length = 10 := by
    simp [isYear.length_eq, isMonth.length_eq, isDay.length_eq]
  have oneByte : ∀ c ∈ year ++ '-' :: (month ++ '-' :: day), c.utf8Size = 1 := by
    simp only [List.forall_mem_append, List.forall_mem_cons]
    exact ⟨fun c inside => utf8Size_of_isDigit (isYear.isDigit c inside), by decide,
      fun c inside => utf8Size_of_isDigit (isMonth.isDigit c inside), by decide,
      fun c inside => utf8Size_of_isDigit (isDay.isDigit c inside)⟩
  -- So the character behind them is the one at that byte.
  have behind := characterAtByte?_length oneByte c rest
  rw [length] at behind
  simpa only [List.append_assoc, List.cons_append] using behind

namespace OffsetDateTime

variable {clock : WallClock} {text rest : List Char}

/-- The instant at which a clock at an offset shows what it does, if that is a date and a time. -/
def instant? (clock : WallClock) (offset : Offset) : Option OffsetDateTime :=
  clock.toDateTime?.bind fun shown => ofLocal? shown offset

/-- An instant is the one of a clock at an offset exactly if its own clock shows the same at that
offset, and that is a date and a time. -/
theorem instant?_eq_some_iff {offset : Offset} {moment : OffsetDateTime} :
    instant? clock offset = some moment ↔
      (∃ shown : DateTime, shown.toWallClock = clock) ∧
        moment.offset = offset ∧ moment.wallClock = clock := by
  -- The clock has to show a date-time, and the instant is the one of that date-time.
  simp only [instant?, Option.bind_eq_some_iff, WallClock.toDateTime?_eq_some_iff,
    ofLocal?_eq_some_iff]
  constructor
  · rintro ⟨shown, rfl, same⟩
    exact ⟨⟨shown, rfl⟩, same⟩
  · rintro ⟨⟨shown, rfl⟩, same⟩
    exact ⟨shown, rfl, same⟩

/-- A clock that shows a real day and time is at an instant at each offset, unless its year is the
first or the last one of dates. -/
theorem exists_instant? {offset : Offset} (real : clock.IsReal) (first : firstYear < clock.day.year)
    (last : clock.day.year < lastYear) : ∃ moment, instant? clock offset = some moment := by
  -- What such a clock shows is a date-time, and its year leaves room for the offset.
  obtain ⟨shown, same⟩ := real.exists_toDateTime? (Int.le_of_lt first) (Int.le_of_lt last)
  obtain rfl := WallClock.toDateTime?_eq_some_iff.mp same
  obtain ⟨moment, instant⟩ := exists_ofLocal? first last
  exact ⟨moment, by rw [instant?, same, Option.bind_some, instant]⟩

/-- Behind full-width fields, the strict reader looks for an offset and the instant. -/
theorem readStrict?_eq (clockReads : TextReader.strictDayTime text = some (clock, rest)) :
    readStrict? text = (TextReader.strictOffset.whole rest).bind (instant? clock) := by
  -- With the clock known, only the offset is left to be read.
  rw [readStrict?, clockReads]
  rfl

/-- Without seconds, the loose reader looks for an offset and the instant. -/
theorem readWithoutSeconds?_eq (clockReads : TextReader.dayHourMinute text = some (clock, rest)) :
    readWithoutSeconds? text = (TextReader.looseOffset rest).bind (instant? clock) := by
  -- With the clock known, only the offset is left to be read.
  rw [readWithoutSeconds?, clockReads]
  rfl

/-- A text that has no reading without seconds is read with them or not at all. -/
theorem read?_eq_readStrict? (parted : characterAtByte? text 10 = some 'T')
    (none : readWithoutSeconds? text = none) : read? text = readStrict? text := by
  -- The second reader has nothing to offer, so the first one decides.
  rw [read?, if_pos parted, none]
  cases readStrict? text <;> rfl

/-- A text that has no reading with seconds is read without them or not at all. -/
theorem read?_eq_readWithoutSeconds? (parted : characterAtByte? text 10 = some 'T')
    (none : readStrict? text = none) : read? text = readWithoutSeconds? text := by
  -- The first reader has nothing to offer, so the second one decides.
  rw [read?, if_pos parted, none]

/-- A text that neither reader takes is no offset date-time. -/
theorem read?_eq_none (strict : readStrict? text = none)
    (withoutSeconds : readWithoutSeconds? text = none) : read? text = none := by
  -- Without a result of either reader, it makes no difference where the letter stands.
  rw [read?, strict, withoutSeconds]
  exact ite_self none

variable {moment other : OffsetDateTime}

/-- Whether a clock at the offset shows a year of four digits and no sign. -/
def ShowsUsualYear (moment : OffsetDateTime) : Prop :=
  0 ≤ moment.wallClock.day.year ∧ moment.wallClock.day.year ≤ 9999

instance (moment : OffsetDateTime) : Decidable moment.ShowsUsualYear :=
  inferInstanceAs (Decidable (_ ∧ _))

/-- The clock of an offset date-time shows a real day and time. -/
theorem isReal_wallClock (moment : OffsetDateTime) : moment.wallClock.IsReal :=
  -- An offset is shorter than a day, so the clock is at most one day ahead or behind.
  moment.utc.isReal_toWallClock.shift moment.offset.above moment.offset.below

/-- An offset begins with a sign, which cannot go on with a second. -/
theorem stops_offset_write (offset : Offset) : Stops TextReader.isSecondPart offset.write := by
  -- Both signs are neither a digit nor a point.
  unfold Offset.write
  refine stops_cons ?_ _
  split <;> rfl

/-- In a usual year, the letter between date and time starts at the eleventh byte. -/
theorem characterAtByte?_write (usual : moment.ShowsUsualYear) (rest : List Char) :
    characterAtByte? (moment.wallClock.write ++ rest) 10 = some 'T' := by
  -- A year of four digits comes first, and months and days of the month have two digits each.
  obtain ⟨-, month, -, dayOfMonth⟩ := moment.isReal_wallClock.day
  have most := daysInMonth_le moment.wallClock.day.year moment.wallClock.day.month
  rw [ShowsUsualYear] at usual
  rw [WallClock.write_append, Day.write_append, writeYear, if_pos usual]
  exact characterAtByte?_day (Numeral.isRun_padded (by decide) (by omega))
    (Numeral.isRun_padded (by decide) (by omega)) (Numeral.isRun_padded (by decide) (by omega)) _ _

/-- A usual year is one of dates. -/
theorem ShowsUsualYear.exists_shown (usual : moment.ShowsUsualYear) :
    ∃ shown : DateTime, shown.toWallClock = moment.wallClock.settled := by
  -- The settled clock shows the same day.
  obtain ⟨first, last⟩ := usual
  rw [← WallClock.day_settled] at first last
  obtain ⟨shown, same⟩ := moment.isReal_wallClock.settled.exists_toDateTime?
    (by rw [firstYear]; omega) (by rw [lastYear]; omega)
  exact ⟨shown, WallClock.toDateTime?_eq_some_iff.mp same⟩

/-- What is read from how an offset date-time is written is a date-time at the nearest whole minute,
whose clock shows what the settled one does, and nothing is read unless the year is a usual one. -/
theorem read?_write_eq_some_iff :
    read? moment.write = some other ↔ moment.ShowsUsualYear ∧
      other.offset.seconds = moment.offset.nearestMinute ∧
      other.wallClock = moment.wallClock.settled := by
  -- The offset and the clock are read apart, and there is one reader that can use up both.
  have real := moment.isReal_wallClock
  have withoutSeconds := readWithoutSeconds?_write_append real moment.offset.write
  have fields := TextReader.strictDayTime_write real (stops_offset_write moment.offset)
  rw [write]
  by_cases usual : 0 ≤ moment.wallClock.day.year ∧ moment.wallClock.day.year ≤ 9999
  · -- The strict reader is the only one that reads anything.
    rw [if_pos usual] at fields
    rw [read?_eq_readStrict? (characterAtByte?_write usual _) withoutSeconds, readStrict?_eq fields,
      TextReader.strictOffset_write]
    simp only [Option.bind_eq_some_iff, Offset.of?_eq_some_iff, instant?_eq_some_iff]
    constructor
    · rintro ⟨offset, nearest, -, rfl, same⟩
      exact ⟨usual, nearest, same⟩
    · rintro ⟨-, nearest, same⟩
      exact ⟨other.offset, nearest, ShowsUsualYear.exists_shown usual, rfl, same⟩
  · -- A year of another length does not fill the field of the strict reader.
    rw [if_neg usual] at fields
    have strict : readStrict? (moment.wallClock.write ++ moment.offset.write) = none := by
      rw [readStrict?, fields]
      rfl
    rw [read?_eq_none strict withoutSeconds]
    exact iff_of_false nofun fun both => usual both.1

/-- An offset of whole minutes is its own nearest minute, and any other is up to half a minute from
it. -/
theorem nearestMinute_spec (offset : Offset) :
    60 ∣ offset.nearestMinute ∧ (offset.nearestMinute - offset.seconds).natAbs ≤ 30 := by
  -- Adding half a minute before dividing rounds to the nearest whole one, on both sides of zero.
  unfold Offset.nearestMinute
  split <;> omega

/-- An offset date-time is read back exactly if its clock shows a usual year, its offset is one of
whole minutes, and its leap second, if it is in one, ends a minute on the clock. -/
theorem read?_write_self_iff :
    read? moment.write = some moment ↔
      moment.ShowsUsualYear ∧ 60 ∣ moment.offset.seconds ∧ moment.wallClock.LeapsLast := by
  -- The nearest minute is the offset itself only if it is a whole one.
  obtain ⟨whole, near⟩ := nearestMinute_spec moment.offset
  have offset : moment.offset.seconds = moment.offset.nearestMinute ↔
      60 ∣ moment.offset.seconds :=
    ⟨fun nearest => nearest ▸ whole, fun minutes => by omega⟩
  rw [read?_write_eq_some_iff, offset, eq_comm, WallClock.settled_eq_iff]

/-- Something is read from how an offset date-time is written exactly if its clock shows a usual year
and its offset does not round to a whole day. -/
theorem exists_read?_write_iff :
    (∃ other, read? moment.write = some other) ↔
      moment.ShowsUsualYear ∧ moment.offset.seconds.natAbs < 86370 := by
  -- An offset that rounds to a whole day is the only one that is none.
  simp only [read?_write_eq_some_iff]
  constructor
  · -- An offset is less than a day, and so is the whole minute that it is rounded to.
    rintro ⟨other, usual, nearest, -⟩
    have above := other.offset.above
    have below := other.offset.below
    rw [secondsPerDay] at above below
    refine ⟨usual, ?_⟩
    unfold Offset.nearestMinute at nearest
    split at nearest <;> omega
  · rintro ⟨usual, short⟩
    -- With half a minute to spare, rounding does not reach a whole day.
    have range : -(secondsPerDay : Int) < moment.offset.nearestMinute ∧
        moment.offset.nearestMinute < secondsPerDay := by
      rw [secondsPerDay]
      unfold Offset.nearestMinute
      split <;> omega
    -- The settled clock shows its time at that offset at some instant.
    obtain ⟨first, last⟩ := usual
    obtain ⟨other, instant⟩ := @exists_instant? moment.wallClock.settled
      ⟨moment.offset.nearestMinute, range.1, range.2⟩ moment.isReal_wallClock.settled
      (by rw [WallClock.day_settled, firstYear]; omega)
      (by rw [WallClock.day_settled, lastYear]; omega)
    obtain ⟨-, offset, same⟩ := instant?_eq_some_iff.mp instant
    exact ⟨other, ⟨first, last⟩, by rw [offset], same⟩

/-- What is read from how an offset date-time is written is the same instant exactly if the offset is
one of whole minutes and a leap second, if it is in one, ends a minute on the clock. -/
theorem utc_eq_iff_of_read?_write (reads : read? moment.write = some other) :
    other.utc = moment.utc ↔
      60 ∣ moment.offset.seconds ∧ moment.wallClock.LeapsLast := by
  -- The clocks show the same but for a leap second, so the offsets decide.
  obtain ⟨usual, nearest, clock⟩ := read?_write_eq_some_iff.mp reads
  constructor
  · intro same
    -- At the same instant, both clocks show the same nanoseconds, so no leap second was moved.
    have nanosecond : moment.wallClock.settled.nanosecond = moment.wallClock.nanosecond := by
      rw [← clock, wallClock, wallClock, WallClock.nanosecond_shift, WallClock.nanosecond_shift,
        same]
    have settled := WallClock.settled_eq_of_nanosecond nanosecond
    refine ⟨?_, WallClock.settled_eq_iff.mp settled⟩
    rw [settled] at clock
    -- Clocks at the same instant that show the same second are less than a minute apart only if
    -- their offsets are the same.
    have second := congrArg (fun clock => (clock.second : Int) % secondsPerDay) clock
    have lt := moment.utc.isReal_toWallClock.second_lt
    simp only [wallClock, same] at second
    rw [WallClock.second_shift_emod lt other.offset.above other.offset.below,
      WallClock.second_shift_emod lt moment.offset.above moment.offset.below] at second
    obtain ⟨whole, near⟩ := nearestMinute_spec moment.offset
    rw [secondsPerDay] at second
    omega
  · -- Then the instant is read back itself.
    intro exact
    have own := read?_write_self_iff.mpr ⟨usual, exact⟩
    rw [Option.some.inj (reads.symm.trans own)]

end OffsetDateTime

end Criteria
