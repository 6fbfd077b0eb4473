import Criteria.Calendar.Reader
import Criteria.Proofs.Calendar.WallClock
import Criteria.Proofs.Text.Numeral

/-! Dates and times that are written as texts read back as they were. -/

namespace Criteria

open Numeral (IsRun value)

/-- A day that is written is its year, its month and its day of the month. -/
theorem Day.write_append (day : Day) (rest : List Char) :
    day.write ++ rest = writeYear day.year ++ '-' ::
      (Numeral.padded 2 day.month ++ '-' :: (Numeral.padded 2 day.day ++ rest)) := by
  -- The parts of the day are grouped from the other end.
  simp [Day.write, List.append_assoc]

/-- A wall clock that is written begins with its day and goes on with its time. -/
theorem WallClock.write_append (clock : WallClock) (rest : List Char) :
    clock.write ++ rest = clock.day.write ++ 'T' :: (Numeral.padded 2 (clock.second / 3600) ++ ':' ::
      (Numeral.padded 2 (clock.second / 60 % 60) ++ ':' ::
        (Numeral.padded 2 (clock.second % 60 + clock.nanosecond / nanosecondsPerSecond) ++
          (writeFraction (clock.nanosecond % nanosecondsPerSecond) ++ rest)))) := by
  -- The parts of the clock are grouped from the other end.
  simp [WallClock.write, List.append_assoc]

/-- Hours, minutes and seconds add up to the seconds that they are taken from. -/
theorem second_eq_of_parts (second : Nat) :
    second / 3600 * 3600 + second / 60 % 60 * 60 + second % 60 = second := by
  omega

/-- No month has more than 31 days. -/
theorem daysInMonth_le (year : Int) (month : Nat) : daysInMonth year month ≤ 31 := by
  -- Each month is looked up, and February in both kinds of year.
  unfold daysInMonth
  split
  · split <;> decide
  all_goals decide

/-- A digit is not blank. -/
theorem isBlank_of_isDigit {c : Char} (isDigit : c.isDigit = true) : isBlank c = false := by
  -- The digits lie between two groups of blank characters.
  have bounds := Numeral.toNat_of_isDigit isDigit
  simp only [isBlank, Bool.or_eq_false_iff, Bool.and_eq_false_iff, decide_eq_false_iff_not]
  omega

namespace TextReader

variable {rest : List Char}

/-- A character is read where it stands. -/
theorem literal_cons (expected : Char) (rest : List Char) :
    literal expected (expected :: rest) = some ((), rest) := by
  rw [literal, if_pos rfl]

section Runs

variable {run : List Char}

/-- A run of digits is read by as many digits as it has. -/
theorem fixed_run {width : Nat} (isRun : IsRun width run) (rest : List Char) :
    fixed width (run ++ rest) = some (value run, rest) := by
  -- The digits in front are the run, as the reader counts no more than its width.
  rw [fixed, Numeral.leading_append isRun.isDigit (.inl isRun.length_eq)]
  simp only
  rw [if_pos isRun.length_eq]

/-- A run of digits is read by a reader of at most as many digits, or of more where none follows. -/
theorem number_run {most : Nat} (nonempty : run ≠ []) (isDigit : ∀ c ∈ run, c.isDigit = true)
    (ends : run.length = most ∨ run.length ≤ most ∧ Stops Char.isDigit rest) :
    TextReader.number most (run ++ rest) = some (value run, rest) := by
  -- The digits in front are the run, which is not empty.
  rw [TextReader.number, Numeral.leading_append isDigit ends]
  simp only
  rw [List.isEmpty_eq_false_iff.mpr nonempty, if_neg Bool.false_ne_true]

/-- A digit is no blank, so none is dropped before a run of digits. -/
theorem dropWhile_isBlank_run (nonempty : run ≠ []) (isDigit : ∀ c ∈ run, c.isDigit = true)
    (rest : List Char) : (run ++ rest).dropWhile isBlank = run ++ rest := by
  -- The first character is a digit.
  obtain ⟨first, others, rfl⟩ := List.exists_cons_of_ne_nil nonempty
  rw [List.cons_append, List.dropWhile_cons, isBlank_of_isDigit (isDigit first List.mem_cons_self),
    if_neg Bool.false_ne_true]

/-- A run of two digits is read as a number. -/
theorem spacedNumber_run (isRun : IsRun 2 run) (rest : List Char) :
    spacedNumber 2 (run ++ rest) = some (value run, rest) := by
  -- Blanks may come first, but none does.
  have nonempty : run ≠ [] := List.ne_nil_of_length_pos (by rw [isRun.length_eq]; decide)
  rw [spacedNumber, dropWhile_isBlank_run nonempty isRun.isDigit]
  exact number_run nonempty isRun.isDigit (.inl isRun.length_eq)

/-- A run of four digits is read as a year. -/
theorem year_run (isRun : IsRun 4 run) (rest : List Char) :
    TextReader.year (run ++ rest) = some ((value run : Int), rest) := by
  -- Blanks may come first, but none does.
  have nonempty : run ≠ [] := List.ne_nil_of_length_pos (by rw [isRun.length_eq]; decide)
  obtain ⟨first, others, written⟩ := List.exists_cons_of_ne_nil nonempty
  have isDigit : first.isDigit = true := isRun.isDigit first (by rw [written]; simp)
  rw [TextReader.year, dropWhile_isBlank_run nonempty isRun.isDigit]
  -- It begins with a digit and not with a sign.
  split
  · rename_i begins
    rw [written] at begins
    cases begins
    cases isDigit
  · rename_i begins
    rw [written] at begins
    cases begins
    cases isDigit
  · rw [number_run nonempty isRun.isDigit (.inl isRun.length_eq), Option.map_some]

end Runs

/-- A number of two digits is read. -/
theorem spacedNumber_padded {number : Nat} (fits : number < 100) (rest : List Char) :
    spacedNumber 2 (Numeral.padded 2 number ++ rest) = some (number, rest) := by
  -- Two digits are a run that denotes the number.
  rw [spacedNumber_run (Numeral.isRun_padded (by decide) fits), Numeral.value_padded]

/-- A widened numeral is read by as many digits as it has. -/
theorem fixed_padded {width number : Nat} (positive : 0 < width) (fits : number < 10 ^ width)
    (rest : List Char) :
    fixed width (Numeral.padded width number ++ rest) = some (number, rest) := by
  -- A widened numeral is a run that denotes the number.
  rw [fixed_run (Numeral.isRun_padded positive fits), Numeral.value_padded]

/-- A number of any width is read where no digit follows it. -/
theorem anyWidth_padded (width number : Nat) (stops : Stops Char.isDigit rest) :
    anyWidth (Numeral.padded width number ++ rest) = some (number, rest) := by
  -- As many digits may be counted as the text has characters, which is enough for the numeral.
  have nonempty := List.isEmpty_eq_false_iff.mp (Numeral.isEmpty_padded width number)
  rw [anyWidth, number_run nonempty (fun _ => Numeral.isDigit_of_mem_padded) (.inr ⟨?_, stops⟩),
    Numeral.value_padded]
  rw [List.length_append]
  exact Nat.le_add_right _ _

/-- A year is read back where no digit follows it. -/
theorem year_write (year : Int) (stops : Stops Char.isDigit rest) :
    TextReader.year (writeYear year ++ rest) = some (year, rest) := by
  -- Only years of four digits are written without a sign.
  unfold writeYear
  split
  · -- A year of four digits has no sign.
    rename_i usual
    have fits : year.natAbs < 10 ^ 4 := by omega
    have magnitude : (year.natAbs : Int) = year := by omega
    rw [year_run (Numeral.isRun_padded (by decide) fits), Numeral.value_padded, magnitude]
  · -- Any other year has a sign, and as many digits as it needs.
    by_cases negative : year < 0
    · -- Behind the minus sign stand all digits of the magnitude.
      have magnitude : -(year.natAbs : Int) = year := by omega
      rw [if_pos negative]
      show (anyWidth (Numeral.padded 4 year.natAbs ++ rest)).map _ = _
      rw [anyWidth_padded _ _ stops, Option.map_some]
      simp only [magnitude]
    · -- Behind the plus sign, they are those of the year itself.
      have magnitude : (year.natAbs : Int) = year := by omega
      rw [if_neg negative]
      show (anyWidth (Numeral.padded 4 year.natAbs ++ rest)).map _ = _
      rw [anyWidth_padded _ _ stops, Option.map_some]
      simp only [magnitude]

/-- A day is read back, whatever follows it. -/
theorem day_write {day : Day} (real : day.IsReal) (rest : List Char) :
    TextReader.day (day.write ++ rest) = some (day, rest) := by
  -- Months and days of the month have two digits at most.
  obtain ⟨-, month, -, dayOfMonth⟩ := real
  have most := daysInMonth_le day.year day.month
  have monthFits : day.month < 100 := by omega
  have dayFits : day.day < 100 := by omega
  have hyphen {after : List Char} : Stops Char.isDigit ('-' :: after) := stops_cons rfl after
  rw [Day.write_append, TextReader.day, year_write _ hyphen]
  simp only [Option.bind_eq_bind, Option.bind_some, literal_cons, spacedNumber_padded monthFits,
    spacedNumber_padded dayFits]

/-- Whether a character can go on with the second of a time. -/
def isSecondPart (c : Char) : Bool :=
  c.isDigit || c = '.'

/-- What cannot go on with a second does not begin with a digit. -/
theorem isDigit_stops (stops : Stops isSecondPart rest) : Stops Char.isDigit rest :=
  -- A character that goes on with no second is no digit.
  fun c head => (Bool.or_eq_false_iff.mp (stops c head)).1

/-- The digits of a fraction of a second count from the point on, and those that are left out are
zeros. -/
theorem fraction_point {width number nanosecond : Nat} (positive : 0 < width) (narrow : width ≤ 9)
    (fits : number < 10 ^ width) (scaled : number * 10 ^ (9 - width) = nanosecond)
    (stops : Stops Char.isDigit rest) :
    fraction ('.' :: Numeral.padded width number ++ rest) = some (nanosecond, rest) := by
  -- The reader counts the digits behind the point and widens what they are the numeral of.
  have length := Numeral.length_padded positive fits
  -- No more digits follow those that are counted.
  have after : rest.dropWhile Char.isDigit = rest := by
    simpa using @dropWhile_append_of_stops Char.isDigit [] rest (by simp) stops
  rw [List.cons_append, fraction, Numeral.leading_append
    (fun _ => Numeral.isDigit_of_mem_padded) (.inr ⟨length.trans_le narrow, stops⟩)]
  simp only
  rw [Numeral.isEmpty_padded, if_neg Bool.false_ne_true, Numeral.value_padded, length, after,
    ← scaled]
  rfl

/-- A fraction of a second is read back where it cannot go on. -/
theorem fraction_write {nanosecond : Nat} (fits : nanosecond < nanosecondsPerSecond)
    (stops : Stops isSecondPart rest) :
    fraction (writeFraction nanosecond ++ rest) = some (nanosecond, rest) := by
  -- The form depends on how many groups of three digits the nanoseconds need.
  have digits := isDigit_stops stops
  rw [nanosecondsPerSecond] at fits
  unfold writeFraction
  split
  · -- Nothing is written for whole seconds, and no point follows.
    rename_i none
    rw [none, List.nil_append]
    unfold fraction
    split
    · cases stops '.' rfl
    · rfl
  split
  -- As few groups of three digits are written as tell the fraction exactly.
  · exact fraction_point (by decide) (by decide) (by omega) (by omega) digits
  split
  · exact fraction_point (by decide) (by decide) (by omega) (by omega) digits
  · exact fraction_point (by decide) (by decide) (by omega) (by omega) digits

/-- Two digits each are read as an hour and a minute if there are these. -/
theorem hourMinute_run {digits : TextReader Nat} {hour minute : List Char} (isHour : IsRun 2 hour)
    (isMinute : IsRun 2 minute)
    (reads : ∀ run, IsRun 2 run → ∀ rest, digits (run ++ rest) = some (value run, rest))
    (rest : List Char) :
    hourMinute digits (hour ++ ':' :: (minute ++ rest)) =
      if value hour < 24 ∧ value minute < 60 then
        some (value hour * 3600 + value minute * 60, rest)
      else none := by
  -- The two runs are read in turn, with a colon in between.
  rw [hourMinute, reads hour isHour]
  simp only [Option.bind_eq_bind, Option.bind_some, literal_cons, reads minute isMinute]

/-- An hour and a minute are read back. -/
theorem hourMinute_write {digits : TextReader Nat} {hour minute : Nat} (hourFits : hour < 24)
    (minuteFits : minute < 60)
    (reads : ∀ run, IsRun 2 run → ∀ rest, digits (run ++ rest) = some (value run, rest))
    (rest : List Char) :
    hourMinute digits (Numeral.padded 2 hour ++ ':' :: (Numeral.padded 2 minute ++ rest)) =
      some (hour * 3600 + minute * 60, rest) := by
  -- Both are written as runs of two digits, and they are an hour and a minute.
  have isHour := @Numeral.isRun_padded 2 hour (by decide) (by omega)
  have isMinute := @Numeral.isRun_padded 2 minute (by decide) (by omega)
  rw [hourMinute_run isHour isMinute reads, Numeral.value_padded, Numeral.value_padded,
    if_pos ⟨hourFits, minuteFits⟩]

/-- A second and a fraction are read back where they cannot go on, a leap second as the second
after the last one of its minute. -/
theorem secondFraction_write {digits : TextReader Nat} {second nanosecond : Nat}
    (secondFits : second < 60) (fits : nanosecond < 2 * nanosecondsPerSecond)
    (leap : nanosecondsPerSecond ≤ nanosecond → second = 59)
    (reads : ∀ run, IsRun 2 run → ∀ rest, digits (run ++ rest) = some (value run, rest))
    (stops : Stops isSecondPart rest) :
    secondFraction digits (Numeral.padded 2 (second + nanosecond / nanosecondsPerSecond) ++
      (writeFraction (nanosecond % nanosecondsPerSecond) ++ rest)) =
      some ((second, nanosecond), rest) := by
  -- The second and the fraction are told apart by whether there is a leap second.
  have positive : 0 < nanosecondsPerSecond := by decide
  have part : nanosecond % nanosecondsPerSecond < nanosecondsPerSecond := Nat.mod_lt _ positive
  by_cases isLeap : nanosecondsPerSecond ≤ nanosecond
  · -- A leap second is written as the second 60 and read as such.
    have last := leap isLeap
    have whole : nanosecond / nanosecondsPerSecond = 1 := by
      rw [nanosecondsPerSecond] at *
      omega
    have restored : nanosecondsPerSecond + nanosecond % nanosecondsPerSecond = nanosecond := by
      rw [nanosecondsPerSecond] at *
      omega
    rw [secondFraction, whole, last,
      reads _ (Numeral.isRun_padded (by decide) (by decide)), Numeral.value_padded]
    simp only [Option.bind_eq_bind, Option.bind_some, fraction_write part stops]
    rw [if_neg (by decide), if_pos trivial, restored]
  · -- Any other nanoseconds are the fraction alone.
    have none : nanosecond / nanosecondsPerSecond = 0 := Nat.div_eq_of_lt (by omega)
    have same : nanosecond % nanosecondsPerSecond = nanosecond := Nat.mod_eq_of_lt (by omega)
    rw [same] at part
    rw [secondFraction, none, same, Nat.add_zero,
      reads _ (Numeral.isRun_padded (by decide) (by omega)), Numeral.value_padded]
    simp only [Option.bind_eq_bind, Option.bind_some, fraction_write part stops]
    rw [if_pos secondFits]

variable {clock : WallClock}

/-- A day and a time with seconds are read as the settled clock where the seconds cannot go on. -/
theorem dayTime_write (real : clock.IsReal) (stops : Stops isSecondPart rest) :
    dayTime (clock.write ++ rest) = some (clock.settled, rest) := by
  -- The settled clock is written alike, and its leap seconds are read back.
  have leap := WallClock.leapsLast_settled real.nanosecond_lt
  rw [← WallClock.write_settled real.nanosecond_lt]
  obtain ⟨day, second, nanosecond⟩ := real.settled
  rw [secondsPerDay] at second
  -- The fields are read one after the other, each ended by the sign behind it.
  rw [WallClock.write_append, dayTime, day_write day]
  simp only [Option.bind_eq_bind, Option.bind_some, literal_cons]
  rw [hourMinute_write (by omega) (by omega) fun _ => spacedNumber_run]
  simp only [Option.bind_some, literal_cons]
  rw [secondFraction_write (by omega) nanosecond leap (fun _ => spacedNumber_run) stops]
  simp only [Option.bind_some, second_eq_of_parts]

/-- A day and a time are read without seconds up to these. -/
theorem dayHourMinute_write (real : clock.IsReal) (rest : List Char) :
    ∃ minute after, dayHourMinute (clock.write ++ rest) = some (minute, ':' :: after) := by
  -- The colon that comes before the seconds is left with them.
  have second := real.second_lt
  rw [secondsPerDay] at second
  rw [WallClock.write_append, dayHourMinute, day_write real.day]
  simp only [Option.bind_eq_bind, Option.bind_some, literal_cons]
  rw [hourMinute_write (by omega) (by omega) fun _ => spacedNumber_run]
  exact ⟨_, _, rfl⟩

/-- Fields of full width are read as the settled clock if the year has four digits, and else none
are read. -/
theorem strictDayTime_write (real : clock.IsReal) (stops : Stops isSecondPart rest) :
    strictDayTime (clock.write ++ rest) =
      if 0 ≤ clock.day.year ∧ clock.day.year ≤ 9999 then some (clock.settled, rest) else none := by
  -- The settled clock is written alike, and its leap seconds are read back.
  have leap := WallClock.leapsLast_settled real.nanosecond_lt
  rw [← WallClock.write_settled real.nanosecond_lt, ← WallClock.day_settled clock]
  obtain ⟨day, second, nanosecond⟩ := real.settled
  obtain ⟨-, month, -, dayOfMonth⟩ := day
  have most := daysInMonth_le clock.settled.day.year clock.settled.day.month
  rw [secondsPerDay] at second
  have full (number : Nat) (fits : number < 100) (rest : List Char) :
      fixed 2 (Numeral.padded 2 number ++ rest) = some (number, rest) :=
    fixed_padded (by decide) fits rest
  have parted (after : List Char) : strictDayTime.separator ('T' :: after) = some ((), after) :=
    rfl
  rw [WallClock.write_append, Day.write_append, strictDayTime]
  split
  · rename_i usual
    -- A year of four digits fills its field, and no other field has more than two digits.
    have fits : clock.settled.day.year.natAbs < 10 ^ 4 := by omega
    have magnitude : (clock.settled.day.year.natAbs : Int) = clock.settled.day.year := by omega
    rw [writeYear, if_pos usual, fixed_padded (by decide) fits]
    simp only [Option.bind_eq_bind, Option.bind_some, literal_cons,
      full clock.settled.day.month (by omega), full clock.settled.day.day (by omega), parted]
    rw [hourMinute_write (by omega) (by omega) fun _ => fixed_run]
    simp only [Option.bind_some, literal_cons]
    rw [secondFraction_write (by omega) nanosecond leap (fun _ => fixed_run) stops]
    simp only [Option.bind_some, second_eq_of_parts, magnitude]
  · rename_i unusual
    -- A year of another length begins with a sign.
    rw [writeYear, if_neg unusual]
    have none (after : List Char) :
        fixed 4 ((if clock.settled.day.year < 0 then '-' else '+') :: after) = none := by
      split <;> rfl
    rw [List.cons_append, none]
    rfl

end TextReader

section Remainders

variable {clock : WallClock} {rest others : List Char}

/-- What follows a text makes no difference to the characters that it has. -/
theorem characterAtByte?_append {text : List Char} {position : Nat}
    (within : position < text.length) (rest : List Char) :
    characterAtByte? (text ++ rest) position = characterAtByte? text position := by
  -- Each character is passed by both texts alike.
  induction text generalizing position with
  -- No byte is within a text of no characters.
  | nil => cases within
  | cons c text ih =>
    cases position with
    | zero => rfl
    | succ position =>
      -- Each character takes at least one byte, so as many characters are enough.
      have size := c.utf8Size_pos
      rw [List.length_cons] at within
      rw [List.cons_append, characterAtByte?, characterAtByte?, ih (by omega)]
      · exact Nat.noConfusion
      · exact Nat.noConfusion

/-- A wall clock is written with more than ten characters. -/
theorem WallClock.ten_lt_length_write (clock : WallClock) : 10 < clock.write.length := by
  -- A year has four digits at least, and months and days of the month have two.
  have year : 4 ≤ (writeYear clock.day.year).length := by
    have digits := Numeral.le_length_padded 4 clock.day.year.natAbs
    unfold writeYear
    split
    · exact digits
    · exact Nat.le_succ_of_le digits
  have month := Numeral.le_length_padded 2 clock.day.month
  have day := Numeral.le_length_padded 2 clock.day.day
  -- Only the parts of the day are counted, with their hyphens and the letter behind them.
  rw [← List.append_nil clock.write, WallClock.write_append, Day.write]
  simp only [List.length_append, List.length_cons]
  omega

/-- From how a local date-time is written, the one is read that the settled clock shows. -/
theorem DateTime.read?_write_eq_some_iff {moment other : DateTime} :
    DateTime.read? moment.write = some other ↔
      other.toWallClock = moment.toWallClock.settled := by
  -- It is written with seconds, and read with them in the first place.
  obtain ⟨shown, same⟩ := moment.exists_toWallClock_eq_settled
  have whole : TextReader.dayTime.whole moment.write = some shown.toWallClock := by
    rw [DateTime.write, ← List.append_nil moment.toWallClock.write, TextReader.whole,
      TextReader.dayTime_write moment.isReal_toWallClock (stops_nil _), same]
  rw [read?, whole, Option.bind_some, toDateTime?_toWallClock, Option.some_inj, ← same,
    toWallClock_inj, eq_comm]

/-- A local date-time is read back from how it is written exactly if it is in no leap second but one
that ends a minute. -/
theorem DateTime.read?_write_self_iff {moment : DateTime} :
    DateTime.read? moment.write = some moment ↔ moment.toWallClock.LeapsLast := by
  -- What is read has the settled clock, which is the clock itself just in this case.
  rw [read?_write_eq_some_iff, eq_comm, WallClock.settled_eq_iff]

/-- A date-time with something behind it is no date. -/
theorem Date.read?_write_append (real : clock.IsReal) (rest : List Char) :
    Date.read? (clock.write ++ rest) = none := by
  -- The letter in front of the time is left when the day has been read.
  rw [read?, WallClock.write_append, TextReader.whole, TextReader.day_write real.day]
  rfl

/-- A date-time with something behind it that is no part of its seconds is no local date-time. -/
theorem DateTime.read?_write_append (real : clock.IsReal)
    (stops : Stops TextReader.isSecondPart rest) (more : rest ≠ []) :
    DateTime.read? (clock.write ++ rest) = none := by
  -- Read with seconds, the text is left with its rest, and without them with the seconds too.
  obtain ⟨c, after, rfl⟩ := List.exists_cons_of_ne_nil more
  obtain ⟨minute, seconds, reads⟩ := TextReader.dayHourMinute_write real (c :: after)
  rw [read?, TextReader.whole, TextReader.dayTime_write real stops, TextReader.whole, reads]
  rfl

/-- With seconds left, no text is read as one without seconds. -/
theorem OffsetDateTime.readWithoutSeconds?_write_append (real : clock.IsReal) (rest : List Char) :
    readWithoutSeconds? (clock.write ++ rest) = none := by
  -- What is left begins with a colon, and no offset does.
  obtain ⟨minute, seconds, reads⟩ := TextReader.dayHourMinute_write real rest
  rw [readWithoutSeconds?, reads]
  rfl

/-- How an offset is written makes no difference to the offset date-time that is read. -/
theorem OffsetDateTime.read?_write_append (real : clock.IsReal)
    (stops : Stops TextReader.isSecondPart rest) (stops' : Stops TextReader.isSecondPart others)
    (same : TextReader.strictOffset.whole others = TextReader.strictOffset.whole rest) :
    OffsetDateTime.read? (clock.write ++ others) = OffsetDateTime.read? (clock.write ++ rest) := by
  -- The letter between date and time stands in front of what differs, and so the readers are
  -- compared.
  have long := clock.ten_lt_length_write
  have strict : readStrict? (clock.write ++ others) = readStrict? (clock.write ++ rest) := by
    unfold readStrict?
    rw [TextReader.strictDayTime_write real stops, TextReader.strictDayTime_write real stops']
    split
    · simp only [Option.bind_eq_bind, Option.bind_some, same]
    · rfl
  rw [read?, read?, characterAtByte?_append long, characterAtByte?_append long, strict,
    readWithoutSeconds?_write_append real, readWithoutSeconds?_write_append real]

end Remainders

end Criteria
