import Criteria.Proofs.Calendar.Instants

/-! Date-times spelled with seconds and without: the two spellings of a minute, and where they part. -/

namespace Criteria

open Numeral (IsRun value)

namespace TextReader

variable {digits : TextReader Nat} {text rest : List Char}

/-- Another character than the expected one is not read. -/
theorem literal_eq_none {expected : Char} (other : text.head? ≠ some expected) :
    literal expected text = none := by
  -- A character that is read stands first.
  refine Option.eq_none_iff_forall_ne_some.mpr fun found reads => other ?_
  rw [literal_eq_some_iff.mp reads]
  rfl

/-- Reads the seconds that follow a minute, and sets the clock to them. -/
def addSeconds (digits : TextReader Nat) (clock : WallClock) : TextReader WallClock := fun text => do
  let (_, text) ← literal ':' text
  let ((second, nanosecond), text) ← secondFraction digits text
  some (⟨clock.day, clock.second + second, nanosecond⟩, text)

/-- A day and a time with seconds are a day and a minute, and then the seconds. -/
theorem dayTime_eq (text : List Char) :
    dayTime text = (dayHourMinute text).bind fun (clock, rest) =>
      addSeconds (spacedNumber 2) clock rest := by
  -- Both readers begin alike, up to the colon in front of the seconds.
  simp only [dayTime, dayHourMinute, addSeconds, Option.bind_eq_bind, Option.bind_assoc,
    Option.bind_some]

/-- Seconds begin with a colon. -/
theorem addSeconds_eq_none (noColon : text.head? ≠ some ':') (clock : WallClock) :
    addSeconds digits clock text = none := by
  -- Without a colon, there is nothing to go on with.
  rw [addSeconds, literal_eq_none noColon]
  rfl

/-- Seconds that are zero leave a clock at its minute. -/
theorem addSeconds_zero {clock : WallClock} (whole : clock.nanosecond = 0)
    (reads : ∀ run, IsRun 2 run → ∀ rest, digits (run ++ rest) = some (value run, rest))
    (stops : Stops isSecondPart rest) :
    addSeconds digits clock (':' :: '0' :: '0' :: rest) = some (clock, rest) := by
  -- Two zeros are how the second zero is written.
  have zero : secondFraction digits ('0' :: '0' :: rest) = some ((0, 0), rest) :=
    @secondFraction_write rest digits 0 0 (by decide) (by decide) nofun reads stops
  rw [addSeconds, literal_cons]
  simp only [Option.bind_eq_bind, Option.bind_some, zero, Nat.add_zero]
  rw [← whole]

end TextReader

open TextReader

/-- A day, an hour and a minute as digits of full width, real or not. -/
structure MinuteText where
  year : List Char
  month : List Char
  day : List Char
  hour : List Char
  minute : List Char
  isYear : IsRun 4 year
  isMonth : IsRun 2 month
  isDay : IsRun 2 day
  isHour : IsRun 2 hour
  isMinute : IsRun 2 minute

namespace MinuteText

/-- The fields as a text, and what follows it. -/
def before (form : MinuteText) (rest : List Char) : List Char :=
  form.year ++ '-' :: (form.month ++ '-' :: (form.day ++ 'T' ::
    (form.hour ++ ':' :: (form.minute ++ rest))))

/-- The fields as a text with seconds that are zero, and what follows it. -/
def beforeSeconds (form : MinuteText) (rest : List Char) : List Char :=
  form.before (':' :: '0' :: '0' :: rest)

/-- What a wall clock with these fields shows. -/
def clock (form : MinuteText) : WallClock :=
  ⟨⟨value form.year, value form.month, value form.day⟩,
    value form.hour * 3600 + value form.minute * 60, 0⟩

/-- Whether the fields have an hour and a minute of a day. -/
def HasTime (form : MinuteText) : Prop :=
  value form.hour < 24 ∧ value form.minute < 60

instance (form : MinuteText) : Decidable form.HasTime :=
  inferInstanceAs (Decidable (_ ∧ _))

/-- Whether the fields have a day of the calendar and a time. -/
def IsReal (form : MinuteText) : Prop :=
  form.clock.day.IsReal ∧ form.HasTime

instance (form : MinuteText) : Decidable form.IsReal :=
  inferInstanceAs (Decidable (_ ∧ _))

section Fields

variable (form : MinuteText) (rest : List Char)

/-- The hour and the minute of the fields are read by their digits. -/
theorem hourMinute_before {digits : TextReader Nat}
    (reads : ∀ run, IsRun 2 run → ∀ rest, digits (run ++ rest) = some (value run, rest)) :
    hourMinute digits (form.hour ++ ':' :: (form.minute ++ rest)) =
      if form.HasTime then some (form.clock.second, rest) else none :=
  hourMinute_run form.isHour form.isMinute reads rest

/-- The fields are read as a day and a minute. -/
theorem dayHourMinute_before :
    dayHourMinute (form.before rest) = if form.HasTime then some (form.clock, rest) else none := by
  -- Each field has its full width, so each step takes one field and leaves the others.
  rw [before, dayHourMinute, TextReader.day, year_run form.isYear]
  simp only [Option.bind_eq_bind, Option.bind_some, literal_cons, spacedNumber_run form.isMonth,
    spacedNumber_run form.isDay, hourMinute_before form rest fun _ => spacedNumber_run]
  split <;> rfl

/-- With seconds, the reader goes on from the minute that the fields have. -/
theorem dayTime_before :
    dayTime (form.before rest) =
      if form.HasTime then addSeconds (spacedNumber 2) form.clock rest else none := by
  -- Without a time, there is no minute to go on from.
  rw [dayTime_eq, dayHourMinute_before]
  split <;> rfl

/-- The reader of full-width fields goes on from it in the same way. -/
theorem strictDayTime_before :
    strictDayTime (form.before rest) =
      if form.HasTime then addSeconds (fixed 2) form.clock rest else none := by
  -- Each field has its full width, so each step takes one field and leaves the others.
  have parted (after : List Char) : strictDayTime.separator ('T' :: after) = some ((), after) :=
    rfl
  rw [before, strictDayTime, fixed_run form.isYear]
  simp only [Option.bind_eq_bind, Option.bind_some, literal_cons, fixed_run form.isMonth,
    fixed_run form.isDay, parted, hourMinute_before form rest fun _ => fixed_run]
  split <;> rfl

/-- The letter between date and time starts at the eleventh byte. -/
theorem characterAtByte?_before : characterAtByte? (form.before rest) 10 = some 'T' :=
  -- The day takes ten bytes, as all its digits are single ones.
  characterAtByte?_day form.isYear form.isMonth form.isDay _ _

end Fields

variable {form : MinuteText} {rest : List Char}

/-- Nothing is read with seconds where no colon follows the fields. -/
theorem dayTime_before_eq_none (noColon : rest.head? ≠ some ':') :
    dayTime (form.before rest) = none := by
  -- Without a colon behind the minute there are no seconds, which this reader asks for.
  rw [dayTime_before, addSeconds_eq_none noColon, ite_self]

/-- Nothing is read from fields of full width there either. -/
theorem strictDayTime_before_eq_none (noColon : rest.head? ≠ some ':') :
    strictDayTime (form.before rest) = none := by
  -- Without a colon behind the minute there are no seconds, which this reader asks for.
  rw [strictDayTime_before, addSeconds_eq_none noColon, ite_self]

/-- With seconds that are zero, the fields are read as they are without seconds. -/
theorem dayTime_beforeSeconds (stops : Stops isSecondPart rest) :
    dayTime (form.beforeSeconds rest) = dayHourMinute (form.before rest) := by
  -- The seconds change nothing at the minute that the fields have.
  rw [beforeSeconds, dayTime_before, dayHourMinute_before,
    addSeconds_zero rfl (fun _ => spacedNumber_run) stops]

/-- With seconds that are zero, fields of full width are read as they are without seconds. -/
theorem strictDayTime_beforeSeconds (stops : Stops isSecondPart rest) :
    strictDayTime (form.beforeSeconds rest) = dayHourMinute (form.before rest) := by
  -- The seconds change nothing at the minute that the fields have.
  rw [beforeSeconds, strictDayTime_before, dayHourMinute_before,
    addSeconds_zero rfl (fun _ => fixed_run) stops]

/-- Real fields are what a clock shows at the beginning of a minute. -/
theorem IsReal.isReal_clock (real : form.IsReal) : form.clock.IsReal := by
  -- An hour and a minute of a day make less than a day of seconds.
  obtain ⟨day, hour, minute⟩ := real
  have within : value form.hour * 3600 + value form.minute * 60 < secondsPerDay := by
    rw [secondsPerDay]
    omega
  have whole : 0 < 2 * nanosecondsPerSecond := by decide
  exact ⟨day, within, whole⟩

end MinuteText

/-- Both spellings of a minute are the same local date-time, or none. -/
theorem DateTime.read?_beforeSeconds (form : MinuteText) :
    read? (form.beforeSeconds []) = read? (form.before []) := by
  -- Each spelling has one reader that could use it up, and these two read the same.
  have noSecond : dayTime.whole (form.before []) = none := by
    have noColon : ([] : List Char).head? ≠ some ':' := nofun
    rw [TextReader.whole, MinuteText.dayTime_before_eq_none noColon]
  have noRest : dayHourMinute.whole (form.beforeSeconds []) = none := by
    rw [MinuteText.beforeSeconds, TextReader.whole, MinuteText.dayHourMinute_before]
    by_cases time : form.HasTime
    · rw [if_pos time]
    · rw [if_neg time]
  -- The seconds are zero, so the two readers find the same time.
  have same : dayTime.whole (form.beforeSeconds []) = dayHourMinute.whole (form.before []) := by
    rw [TextReader.whole, MinuteText.dayTime_beforeSeconds (stops_nil _), TextReader.whole]
  rw [read?, read?, noSecond, noRest, same]
  cases (dayHourMinute.whole (form.before [])).bind WallClock.toDateTime? <;> rfl

namespace TextReader

variable {suffix : List Char}

/-- What begins like an offset does not begin with a colon. -/
theorem BeginsOffset.head?_ne (begins : BeginsOffset suffix) : suffix.head? ≠ some ':' := by
  -- Of the three characters that begin an offset, none is a colon.
  obtain ⟨c, rest, rfl, mark⟩ := begins
  rw [List.head?_cons, Option.some_inj.ne]
  rintro rfl
  revert mark
  decide

/-- What begins like an offset cannot go on with a second. -/
theorem BeginsOffset.stops (begins : BeginsOffset suffix) : Stops isSecondPart suffix := by
  -- Neither sign goes on with a second, and the letter does not either.
  obtain ⟨c, rest, rfl, rfl | rfl | rfl⟩ := begins <;> exact stops_cons rfl rest

end TextReader

namespace OffsetDateTime

variable {form : MinuteText} {suffix : List Char} {moment : OffsetDateTime}

/-- Without seconds, an offset date-time is read at a loose offset. -/
theorem read?_before (begins : BeginsOffset suffix) :
    read? (form.before suffix) =
      if form.HasTime then (looseOffset suffix).bind (instant? form.clock) else none := by
  -- The strict reader misses the seconds, and so the loose one decides.
  have strict : readStrict? (form.before suffix) = none := by
    rw [readStrict?, MinuteText.strictDayTime_before_eq_none begins.head?_ne]
    rfl
  rw [read?_eq_readWithoutSeconds? (form.characterAtByte?_before suffix) strict]
  split
  · -- With a time, what is left is the offset, and without one nothing is read.
    rename_i time
    rw [readWithoutSeconds?_eq (by rw [MinuteText.dayHourMinute_before, if_pos time])]
  · rename_i noTime
    rw [readWithoutSeconds?, MinuteText.dayHourMinute_before, if_neg noTime]
    rfl

/-- With seconds, it is read at a strict one. -/
theorem read?_beforeSeconds (begins : BeginsOffset suffix) :
    read? (form.beforeSeconds suffix) =
      if form.HasTime then (strictOffset.whole suffix).bind (instant? form.clock) else none := by
  -- The seconds begin with a colon, which begins no offset.
  have withoutSeconds : readWithoutSeconds? (form.beforeSeconds suffix) = none := by
    rw [readWithoutSeconds?, MinuteText.beforeSeconds, MinuteText.dayHourMinute_before]
    split <;> rfl
  -- The T stands where the readers look for it, and only the one with seconds goes on.
  have parted : characterAtByte? (form.beforeSeconds suffix) 10 = some 'T' :=
    form.characterAtByte?_before _
  have clockReads := @MinuteText.strictDayTime_beforeSeconds form suffix begins.stops
  rw [MinuteText.dayHourMinute_before] at clockReads
  rw [read?_eq_readStrict? parted withoutSeconds]
  split
  · rename_i time
    rw [readStrict?_eq (by rw [clockReads, if_pos time])]
  · rename_i noTime
    rw [readStrict?, clockReads, if_neg noTime]
    rfl

/-- What is read with seconds is read without them too. -/
theorem read?_before_of_beforeSeconds (begins : BeginsOffset suffix)
    (reads : read? (form.beforeSeconds suffix) = some moment) :
    read? (form.before suffix) = some moment := by
  -- The clock is the same, and so is the offset to the loose reader.
  rw [read?_beforeSeconds begins, Option.ite_none_right_eq_some, Option.bind_eq_some_iff] at reads
  obtain ⟨time, offset, strict, instant⟩ := reads
  rw [read?_before begins, if_pos time, looseOffset_of_strictOffset begins strict]
  exact instant

/-- Real fields have an instant at each offset, and no others have one. -/
theorem exists_instant?_iff (time : form.HasTime) {offset : Offset} :
    (∃ moment, instant? form.clock offset = some moment) ↔ form.IsReal := by
  -- An instant has a date, and so the day that its clock shows is real.
  constructor
  · rintro ⟨moment, instant⟩
    obtain ⟨⟨shown, same⟩, -⟩ := instant?_eq_some_iff.mp instant
    exact ⟨same ▸ shown.date.isReal, time⟩
  · -- A year of four digits is far from the ends of the range of dates.
    intro real
    have fourDigits : value form.year < 10 ^ 4 := form.isYear.value_lt
    refine exists_instant? real.isReal_clock ?_ ?_
    · simp only [firstYear, MinuteText.clock]
      omega
    · simp only [lastYear, MinuteText.clock]
      omega

/-- The two spellings are read alike unless the fields are real and only the loose reader takes the
offset. -/
theorem read?_beforeSeconds_eq_iff (begins : BeginsOffset suffix) :
    read? (form.beforeSeconds suffix) = read? (form.before suffix) ↔
      ¬(form.IsReal ∧ IsLooseOffset suffix) := by
  -- The clock is the same in both readings, so the offsets are compared.
  rw [read?_before begins, read?_beforeSeconds begins]
  by_cases time : form.HasTime
  · rw [if_pos time, if_pos time]
    by_cases isLoose : IsLooseOffset suffix
    · -- There is an instant at the loose offset exactly if the fields are real.
      obtain ⟨⟨offset, loose⟩, strict⟩ := isLoose.apart
      rw [strict, loose, Option.bind_none, Option.bind_some, and_iff_left isLoose,
        ← exists_instant?_iff time, eq_comm, Option.eq_none_iff_forall_ne_some, not_exists]
    · -- Any other offset is the same one to both readers, or none.
      rw [(looseOffset_eq_strictOffset_iff begins).mpr isLoose]
      exact iff_of_true rfl fun both => isLoose both.2
  · -- Fields without a time are read in neither way.
    rw [if_neg time, if_neg time]
    exact iff_of_true rfl fun both => time both.1.2

end OffsetDateTime

end Criteria
