import Criteria.Calendar.Offset
import Criteria.Text.Blank
import Criteria.Text.Numeral

/-! Reading dates and times from text. -/

namespace Criteria

/-- A step of reading: a value with the text that follows it, or nothing. -/
abbrev TextReader (α : Type) := List Char → Option (α × List Char)

namespace TextReader

/-- Reads exactly one given character. -/
def literal (expected : Char) : TextReader Unit
  | [] => none
  | c :: rest => if c = expected then some ((), rest) else none

/-- Reads one to `width` digits as a number. -/
def number (width : Nat) : TextReader Nat := fun text =>
  let (run, rest) := Numeral.leading width text
  if run.isEmpty then none else some (Numeral.value run, rest)

/-- Reads exactly `width` digits as a number. -/
def fixed (width : Nat) : TextReader Nat := fun text =>
  let (run, rest) := Numeral.leading width text
  if run.length = width then some (Numeral.value run, rest) else none

/-- Reads as many digits as there are, at least one, as a number. -/
def anyWidth : TextReader Nat := fun text =>
  number text.length text

/-- Drops blanks, then reads one to `width` digits as a number. -/
def spacedNumber (width : Nat) : TextReader Nat := fun text =>
  number width (text.dropWhile isBlank)

/-- Drops blanks, then reads a year: up to four digits, or any number of them after a sign. -/
def year : TextReader Int := fun text =>
  match text.dropWhile isBlank with
  | '-' :: rest => (anyWidth rest).map fun (magnitude, after) => (-(magnitude : Int), after)
  | '+' :: rest => (anyWidth rest).map fun (magnitude, after) => ((magnitude : Int), after)
  | rest => (number 4 rest).map fun (magnitude, after) => ((magnitude : Int), after)

/--
Reads an optional fraction of a second as nanoseconds.

Digits after the ninth are read and dropped.
-/
def fraction : TextReader Nat
  | '.' :: rest =>
    let (run, after) := Numeral.leading 9 rest
    if run.isEmpty then none
    -- Nine digits are nanoseconds, and fewer are widened to as many.
    else some (Numeral.value run * Nat.pow 10 (9 - run.length), after.dropWhile Char.isDigit)
  | text => some (0, text)

/-- Reads a day written as year, month and day with hyphens between them. -/
def day : TextReader Day := fun text => do
  let (year, text) ← year text
  let (_, text) ← literal '-' text
  let (month, text) ← spacedNumber 2 text
  let (_, text) ← literal '-' text
  let (day, text) ← spacedNumber 2 text
  some (⟨year, month, day⟩, text)

/-- Reads an hour and a minute with a colon between them, as seconds since midnight. -/
def hourMinute (digits : TextReader Nat) : TextReader Nat := fun text => do
  let (hour, text) ← digits text
  let (_, text) ← literal ':' text
  let (minute, text) ← digits text
  if hour < 24 ∧ minute < 60 then some (hour * 3600 + minute * 60, text) else none

/--
Reads a second and an optional fraction that follow a minute.

The second 60 is the leap second at the end of the minute.
-/
def secondFraction (digits : TextReader Nat) : TextReader (Nat × Nat) := fun text => do
  let (second, text) ← digits text
  let (nanosecond, text) ← fraction text
  if second < 60 then some ((second, nanosecond), text)
  -- A leap second is held as the second before it with nanoseconds past a whole second.
  else if second = 60 then some ((59, nanosecondsPerSecond + nanosecond), text)
  else none

/-- Reads a day and a time without seconds. -/
def dayHourMinute : TextReader WallClock := fun text => do
  let (day, text) ← day text
  let (_, text) ← literal 'T' text
  let (minuteStart, text) ← hourMinute (spacedNumber 2) text
  some (⟨day, minuteStart, 0⟩, text)

/-- Reads a day and a time with seconds. -/
def dayTime : TextReader WallClock := fun text => do
  let (day, text) ← day text
  let (_, text) ← literal 'T' text
  let (minuteStart, text) ← hourMinute (spacedNumber 2) text
  let (_, text) ← literal ':' text
  let ((second, nanosecond), text) ← secondFraction (spacedNumber 2) text
  some (⟨day, minuteStart + second, nanosecond⟩, text)

/-- Reads a day and a time whose fields all have their full width. -/
def strictDayTime : TextReader WallClock := fun text => do
  let (year, text) ← fixed 4 text
  let (_, text) ← literal '-' text
  let (month, text) ← fixed 2 text
  let (_, text) ← literal '-' text
  let (day, text) ← fixed 2 text
  let (_, text) ← separator text
  let (minuteStart, text) ← hourMinute (fixed 2) text
  let (_, text) ← literal ':' text
  let ((second, nanosecond), text) ← secondFraction (fixed 2) text
  some (⟨⟨year, month, day⟩, minuteStart + second, nanosecond⟩, text)
where
  /-- A day and a time are parted by a T in either case or by a space. -/
  separator : TextReader Unit
    | c :: rest => if c = 'T' ∨ c = 't' ∨ c = ' ' then some ((), rest) else none
    | [] => none

/-- Reads the sign of an offset as whether it is negative; the minus sign may be U+2212. -/
def offsetSign : TextReader Bool
  | c :: rest =>
    if c = '+' then some (false, rest)
    else if c = '-' ∨ c = '\u2212' then some (true, rest)
    else none
  | [] => none

/-- The offset of a sign, hours and minutes; hours stay below 24 and minutes below 60. -/
def signedOffset? (negative : Bool) (hours minutes : Nat) : Option Offset :=
  if minutes < 60 then
    let magnitude : Int := (hours * 3600 + minutes * 60 : Nat)
    -- Hours are not looked at by themselves: with a day or more, there is no offset.
    Offset.of? (if negative then -magnitude else magnitude)
  else none

/-- Reads an offset: the letter Z in either case, or sign, hours, a colon and minutes. -/
def strictOffset : TextReader Offset
  | [] => none
  | c :: rest =>
    if c = 'Z' ∨ c = 'z' then (Offset.of? 0).map fun offset => (offset, rest)
    else do
      let (negative, text) ← offsetSign (c :: rest)
      let (hours, text) ← fixed 2 text
      let (_, text) ← literal ':' text
      let (minutes, text) ← fixed 2 text
      let offset ← signedOffset? negative hours minutes
      some (offset, text)

/--
Reads an offset to the end of the text.

Blanks may come first, blanks and colons may stand before the minutes, and minutes may be missing.
-/
def looseOffset (text : List Char) : Option Offset :=
  match text.dropWhile isBlank with
  | [] => none
  | c :: rest =>
    if c = 'Z' ∨ c = 'z' then if rest.isEmpty then Offset.of? 0 else none
    else do
      let (negative, text) ← offsetSign (c :: rest)
      let (hours, text) ← fixed 2 text
      -- Whatever colons and blanks come here part the hours from the minutes.
      let text := text.dropWhile fun c => c = ':' || isBlank c
      -- Without minutes the offset is one of whole hours.
      if text.isEmpty then signedOffset? negative hours 0
      else do
        let (minutes, text) ← fixed 2 text
        if text.isEmpty then signedOffset? negative hours minutes else none

/-- The value that a reader gives when it uses up the whole text. -/
def whole {α : Type} (reader : TextReader α) (text : List Char) : Option α :=
  match reader text with
  | some (value, []) => some value
  | _ => none

end TextReader

/-- The date that a text denotes. -/
def Date.read? (text : List Char) : Option Date :=
  (TextReader.day.whole text).bind Date.ofDay?

/-- The local date-time that a text denotes, with or without seconds. -/
def DateTime.read? (text : List Char) : Option DateTime :=
  match (TextReader.dayTime.whole text).bind WallClock.toDateTime? with
  | some moment => some moment
  -- A text that has no seconds is read in a second attempt.
  | none => (TextReader.dayHourMinute.whole text).bind WallClock.toDateTime?

/-- The character that starts at a byte of the text's UTF-8 form. -/
def characterAtByte? : List Char → Nat → Option Char
  | [], _ => none
  | c :: _, 0 => some c
  | c :: rest, position =>
    -- A byte in the middle of a character is the start of none.
    if c.utf8Size ≤ position then characterAtByte? rest (position - c.utf8Size) else none

namespace OffsetDateTime

/-- The offset date-time of full-width fields with seconds. -/
def readStrict? (text : List Char) : Option OffsetDateTime := do
  let (clock, text) ← TextReader.strictDayTime text
  let offset ← TextReader.strictOffset.whole text
  let shown ← clock.toDateTime?
  ofLocal? shown offset

/-- The offset date-time without seconds. -/
def readWithoutSeconds? (text : List Char) : Option OffsetDateTime := do
  let (clock, text) ← TextReader.dayHourMinute text
  let offset ← TextReader.looseOffset text
  let shown ← clock.toDateTime?
  ofLocal? shown offset

/--
The offset date-time that a text denotes, with or without seconds.

The letter T has to start at the eleventh byte, so a space cannot part date and time.
-/
def read? (text : List Char) : Option OffsetDateTime :=
  if characterAtByte? text 10 = some 'T' then
    match readStrict? text with
    | some moment => some moment
    | none => readWithoutSeconds? text
  else none

end OffsetDateTime

end Criteria
