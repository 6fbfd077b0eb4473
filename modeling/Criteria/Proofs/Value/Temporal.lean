import Criteria.Proofs.Calendar.Seconds
import Criteria.Proofs.Interchange.RoundTrip
import Criteria.Proofs.Value.Exchange

/-! Dates and date-times that are converted to the kind that they have already, and texts of them
with seconds and without. -/

namespace Criteria

/-- The fields of a minute as an operand, and what follows them. -/
def MinuteText.withoutSeconds (form : MinuteText) (suffix : List Char) : Value :=
  .text (String.ofList (form.before suffix))

/-- The fields of a minute and the second zero as an operand, and what follows them. -/
def MinuteText.withSeconds (form : MinuteText) (suffix : List Char) : Value :=
  .text (String.ofList (form.beforeSeconds suffix))

namespace Value

/-- An offset date-time is converted to what is read from how it is written. -/
theorem coerce_offsetDateTime_eq_ok_iff {moment : OffsetDateTime} {native : Value} :
    (offsetDateTime moment).coerce .offsetDateTime = .ok native ↔
      ∃ other, OffsetDateTime.read? moment.write = some other ∧ .offsetDateTime other = native := by
  -- The kind reads the rendering, as it does with every operand.
  rw [coerce_eq_ok_iff rfl rfl, FieldKind.read?, write, Option.map_eq_some_iff]

/-- An offset date-time is converted to itself exactly if its clock shows a year of four digits, its
offset is one of whole minutes, and its leap second, if it is in one, ends a minute on the clock.

Of the others, those are refused whose year has a sign or whose offset rounds to a whole day. What
the rest become is written with the same day and time, at an offset of whole minutes up to half a
minute away, and it is another instant. -/
theorem offsetDateTime_kept_iff (moment : OffsetDateTime) :
    ((offsetDateTime moment).coerce .offsetDateTime = .ok (.offsetDateTime moment) ↔
        moment.ShowsUsualYear ∧ 60 ∣ moment.offset.seconds ∧ moment.wallClock.LeapsLast) ∧
      ((∃ native, (offsetDateTime moment).coerce .offsetDateTime = .ok native) ↔
        moment.ShowsUsualYear ∧ moment.offset.seconds.natAbs < 86370) ∧
      ∀ native, (offsetDateTime moment).coerce .offsetDateTime = .ok native →
        ∃ other : OffsetDateTime, native = .offsetDateTime other ∧
          other.wallClock.write = moment.wallClock.write ∧ 60 ∣ other.offset.seconds ∧
          (other.offset.seconds - moment.offset.seconds).natAbs ≤ 30 ∧
          (other.utc = moment.utc ↔
            60 ∣ moment.offset.seconds ∧ moment.wallClock.LeapsLast) := by
  -- What is read from the rendering decides, and the reader is known exactly.
  simp only [coerce_offsetDateTime_eq_ok_iff]
  refine ⟨?_, ?_, ?_⟩
  · rw [← OffsetDateTime.read?_write_self_iff]
    simp
  · -- Converting gives an offset date-time exactly if one is read.
    rw [← OffsetDateTime.exists_read?_write_iff]
    exact ⟨fun ⟨_, other, reads, _⟩ => ⟨other, reads⟩,
      fun ⟨other, reads⟩ => ⟨_, other, reads, rfl⟩⟩
  · -- The settled clock is written as the clock itself, and the offset as its nearest minute.
    rintro native ⟨other, reads, rfl⟩
    obtain ⟨-, nearest, clock⟩ := OffsetDateTime.read?_write_eq_some_iff.mp reads
    obtain ⟨whole, near⟩ := OffsetDateTime.nearestMinute_spec moment.offset
    rw [← nearest] at whole near
    have shown : other.wallClock.write = moment.wallClock.write := by
      rw [clock, WallClock.write_settled moment.isReal_wallClock.nanosecond_lt]
    exact ⟨other, rfl, shown, whole, near, OffsetDateTime.utc_eq_iff_of_read?_write reads⟩

/-- The middle of the leap second that ended 2016, told two hours and a half west. -/
def leapSecondWest : OffsetDateTime :=
  ⟨⟨⟨⟨2016, 12, 31⟩, by decide, by decide, by decide⟩,
    ⟨86399, 1500000000, by decide, by decide⟩⟩, ⟨-9000, by decide, by decide⟩⟩

/-- The leap second is converted to itself. -/
theorem offsetDateTime_kept_iff_leapSecondWest :
    (leapSecondWest.ShowsUsualYear ∧ 60 ∣ leapSecondWest.offset.seconds ∧
        leapSecondWest.wallClock.LeapsLast) ∧
      (offsetDateTime leapSecondWest).coerce .offsetDateTime =
        .ok (.offsetDateTime leapSecondWest) := by
  -- On the clock it is 21:29:60, the end of a minute.
  have exact : leapSecondWest.ShowsUsualYear ∧ 60 ∣ leapSecondWest.offset.seconds ∧
      leapSecondWest.wallClock.LeapsLast := ⟨by decide, by decide, by decide⟩
  exact ⟨exact, (offsetDateTime_kept_iff leapSecondWest).1.mpr exact⟩

/-- A morning in 2024, told an hour and half a minute east. -/
def morningEast : OffsetDateTime :=
  ⟨⟨⟨⟨2024, 1, 15⟩, by decide, by decide, by decide⟩,
    ⟨25200, 0, by decide, by decide⟩⟩, ⟨3630, by decide, by decide⟩⟩

/-- Not every offset date-time is converted to itself: half a minute of an offset is lost, and the
instant with it. -/
theorem not_offsetDateTime_kept :
    ¬∀ moment : OffsetDateTime,
      (offsetDateTime moment).coerce .offsetDateTime = .ok (.offsetDateTime moment) := by
  -- What is read has another offset, which is decided.
  intro kept
  have same := coerce_offsetDateTime_eq_ok_iff.mp (kept morningEast)
  obtain ⟨other, reads, same⟩ := same
  cases same
  revert reads
  decide +kernel

/-- Whether two values are converted alike: both to the same one, or both to none. -/
def ConvertAlike (left right : Value) (kind : FieldKind) : Prop :=
  ∀ native, left.coerce kind = .ok native ↔ right.coerce kind = .ok native

section Texts

variable {kind : FieldKind} (scalar : kind.isScalar = true)
include scalar

/-- A text is converted to what is read from it. -/
theorem coerce_text_eq_ok_iff {content : List Char} {native : Value} :
    (text (String.ofList content)).coerce kind = .ok native ↔ kind.read? content = some native := by
  rw [coerce_eq_ok_iff scalar rfl, write, String.toList_ofList]

/-- Texts are converted alike exactly if the same is read from them. -/
theorem convertAlike_text_iff {left right : List Char} :
    ConvertAlike (text (String.ofList left)) (text (String.ofList right)) kind ↔
      kind.read? left = kind.read? right := by
  -- Results are the same if they are the same value or none at all.
  simp only [ConvertAlike, coerce_text_eq_ok_iff scalar]
  exact Option.ext_iff.symm

end Texts

/-- A local date-time is converted alike with seconds that are zero and without seconds.

An offset date-time that is given with such seconds is given without them too. The other way about,
the seconds make a difference exactly if the fields are real and the offset is one that only the
reader without seconds takes: its minutes are missing, or parted from its hours by anything but one
colon. -/
theorem withSeconds_convertAlike_iff (form : MinuteText) :
    ConvertAlike (form.withSeconds []) (form.withoutSeconds []) .dateTime ∧
      ∀ suffix, TextReader.BeginsOffset suffix →
        (∀ native, (form.withSeconds suffix).coerce .offsetDateTime = .ok native →
          (form.withoutSeconds suffix).coerce .offsetDateTime = .ok native) ∧
        (ConvertAlike (form.withSeconds suffix) (form.withoutSeconds suffix) .offsetDateTime ↔
          ¬(form.IsReal ∧ TextReader.IsLooseOffset suffix)) := by
  -- What texts are converted to is what is read from them, so the readers are compared.
  refine ⟨?_, fun suffix begins => ⟨fun native converts => ?_, ?_⟩⟩
  · -- Local date-times have nothing behind the seconds that could be read differently.
    refine (convertAlike_text_iff rfl).mpr ?_
    rw [FieldKind.read?, FieldKind.read?, DateTime.read?_beforeSeconds]
  · obtain ⟨moment, reads, rfl⟩ := Option.map_eq_some_iff.mp
      ((coerce_text_eq_ok_iff rfl).mp converts)
    refine (coerce_text_eq_ok_iff rfl).mpr ?_
    rw [FieldKind.read?, OffsetDateTime.read?_before_of_beforeSeconds begins reads, Option.map_some]
  · -- The readers differ on loose offsets, and only behind real fields.
    refine (convertAlike_text_iff rfl).trans ?_
    rw [FieldKind.read?, FieldKind.read?, ← OffsetDateTime.read?_beforeSeconds_eq_iff begins]
    exact Option.map_inj_right fun _ _ same => Value.offsetDateTime.inj same

/-- The last minute of a leap day. -/
def leapDayMinute : MinuteText :=
  ⟨['2', '0', '2', '4'], ['0', '2'], ['2', '9'], ['2', '3'], ['5', '9'], by decide, by decide,
    by decide, by decide, by decide⟩

/-- Five hours and a half west, both spellings of the minute are converted alike. -/
theorem withSeconds_convertAlike_iff_leapDayMinute :
    TextReader.BeginsOffset ['-', '0', '5', ':', '3', '0'] ∧ leapDayMinute.IsReal ∧
      ¬TextReader.IsLooseOffset ['-', '0', '5', ':', '3', '0'] ∧
      ConvertAlike (leapDayMinute.withSeconds ['-', '0', '5', ':', '3', '0'])
        (leapDayMinute.withoutSeconds ['-', '0', '5', ':', '3', '0']) .offsetDateTime := by
  -- The offset has hours and minutes with one colon between them.
  have begins : TextReader.BeginsOffset ['-', '0', '5', ':', '3', '0'] :=
    ⟨'-', _, rfl, .inr (.inl rfl)⟩
  have strict : ¬TextReader.IsLooseOffset ['-', '0', '5', ':', '3', '0'] :=
    (TextReader.looseOffset_eq_strictOffset_iff begins).mp (by decide)
  exact ⟨begins, by decide, strict, ((withSeconds_convertAlike_iff leapDayMinute).2 _ begins).2.mpr
    fun both => strict both.2⟩

/-- Not every offset leaves the seconds optional: without its minutes it needs a time without
seconds. -/
theorem not_withSeconds_convertAlike :
    ¬∀ (form : MinuteText) (suffix : List Char), TextReader.BeginsOffset suffix →
      ConvertAlike (form.withSeconds suffix) (form.withoutSeconds suffix) .offsetDateTime := by
  -- The offset has hours only, and both texts are read.
  intro alike
  have begins : TextReader.BeginsOffset ['+', '0', '1'] := ⟨'+', _, rfl, .inl rfl⟩
  have same := (convertAlike_text_iff rfl).mp (alike leapDayMinute ['+', '0', '1'] begins)
  revert same
  decide +kernel

end Value

end Criteria
