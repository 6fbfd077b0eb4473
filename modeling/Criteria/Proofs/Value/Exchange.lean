import Criteria.Interchange.Writer
import Criteria.Proofs.Calendar.Reading
import Criteria.Proofs.Value.Literal
import Criteria.Value.Coercion

/-! Operands that were sent as JSON: which texts dates become, and what these are converted to. -/

namespace Criteria

/-- What has a colon in it is no integer. -/
theorem Numeral.integer?_eq_none_of_colon {text : List Char} (colon : ':' ∈ text) :
    Numeral.integer? text = none := by
  refine Option.eq_none_iff_forall_ne_some.mpr fun number reads => ?_
  -- A numeral has digits, and at most a sign before them.
  cases integer?_eq_some_iff.mp reads with
  | plain _ isDigit => cases isDigit ':' colon
  | plus _ isDigit | minus _ isDigit =>
    cases isDigit ':' (List.mem_of_ne_of_mem (by decide) colon)

/-- A colon is not among the digits that a text begins with. -/
theorem colon_mem_dropWhile_isDigit {text : List Char} (colon : ':' ∈ text) :
    ':' ∈ text.dropWhile Char.isDigit := by
  -- The colon is among the digits in front or behind them, and it is no digit.
  rw [← @List.takeWhile_append_dropWhile _ Char.isDigit text] at colon
  rcases List.mem_append.mp colon with digit | after
  · cases List.mem_takeWhile_imp digit
  · exact after

/-- What has a colon in it is no floating point numeral. -/
theorem FloatNumeral.ofText?_eq_none_of_colon {text : List Char} (colon : ':' ∈ text) :
    ofText? text = none := by
  -- The text is taken apart as the reader does, and in each part the colon is in the way.
  -- The letter of an exponent is no colon, and an integer has none in it.
  have notExponent {digits : List Char} (inside : ':' ∈ digits) : exponent? digits = none := by
    cases digits with
    | nil => cases inside
    | cons c rest =>
      rw [exponent?]
      split
      · rename_i mark
        have other : ':' ≠ c := by rcases mark with rfl | rfl <;> decide
        exact Numeral.integer?_eq_none_of_colon (List.mem_of_ne_of_mem other inside)
      · rfl
  have notUnsigned {negative : Bool} {digits : List Char} (inside : ':' ∈ digits) :
      unsigned? negative digits = none := by
    -- None of the names has a colon in it, in either case.
    have lower : ':' ∈ digits.map Char.toLower := List.mem_map.mpr ⟨':', inside, rfl⟩
    have notNan : digits.map Char.toLower ≠ ['n', 'a', 'n'] := by
      intro same
      rw [same] at lower
      exact absurd lower (by decide)
    have notInfinity : ¬(digits.map Char.toLower = ['i', 'n', 'f'] ∨
        digits.map Char.toLower = ['i', 'n', 'f', 'i', 'n', 'i', 't', 'y']) := by
      rintro (same | same) <;> rw [same] at lower <;> exact absurd lower (by decide)
    -- In a number, it could only stand where an exponent is expected.
    have after := colon_mem_dropWhile_isDigit inside
    simp only [unsigned?, notNan, notInfinity, if_false]
    split
    · rename_i rest begins
      rw [begins] at after
      have fraction := List.mem_of_ne_of_mem (by decide) after
      rw [notExponent (colon_mem_dropWhile_isDigit fraction), Option.map_none, ite_self]
    · rw [notExponent after, Option.map_none, ite_self]
  -- A sign in front is no colon, so the colon is behind it.
  unfold ofText?
  split
  · exact notUnsigned (List.mem_of_ne_of_mem (by decide) colon)
  · exact notUnsigned (List.mem_of_ne_of_mem (by decide) colon)
  · exact notUnsigned colon

namespace OffsetDateTime

variable {moment : OffsetDateTime}

/-- In universal time, the wall clock shows the date-time itself. -/
theorem wallClock_of_utc (utc : moment.offset.seconds = 0) :
    moment.wallClock = moment.utc.toWallClock := by
  -- Shifting by nothing stays on the day.
  have second := moment.utc.time.second_lt
  have notBefore : ¬(moment.utc.time.second : Int) < 0 := by omega
  have within : (moment.utc.time.second : Int) < secondsPerDay := by omega
  simp only [wallClock, utc, DateTime.toWallClock, WallClock.shift, Int.add_zero]
  rw [if_neg notBefore, if_pos within, Int.toNat_natCast]

/-- In universal time, the offset is written with all its digits. -/
theorem write_of_utc (utc : moment.offset.seconds = 0) :
    moment.write = moment.utc.toWallClock.write ++ ['+', '0', '0', ':', '0', '0'] := by
  -- The clock shows the date-time, and the offset has no hours and no minutes.
  rw [write, wallClock_of_utc utc, Offset.write, utc]
  rfl

/-- In universal time, the offset is a single letter in JSON. -/
theorem writeShort?_of_utc (utc : moment.offset.seconds = 0) :
    moment.writeShort? = some (moment.utc.toWallClock.write ++ ['Z']) := by
  -- The clock shows a date that there is.
  have day : Date.ofDay? moment.utc.toWallClock.day = some moment.utc.date :=
    Date.ofDay?_toDay moment.utc.date
  rw [writeShort?, wallClock_of_utc utc, day, Option.map_some, if_pos utc]

/-- At any other offset, an offset date-time is written as JSON in the same way as ever. -/
theorem writeShort?_of_ne_utc {written : List Char} (elsewhere : moment.offset.seconds ≠ 0)
    (writes : moment.writeShort? = some written) : written = moment.write := by
  -- The letter is used for universal time only.
  obtain ⟨date, -, same⟩ := Option.map_eq_some_iff.mp writes
  rw [if_neg elsewhere] at same
  exact same.symm

end OffsetDateTime

namespace Value

/-- The operand that the JSON of an operand is read as; dates and date-times become texts. -/
def exchanged : Value → Value
  | .date day => .text (String.ofList day.write)
  | .dateTime moment => .text (String.ofList moment.write)
  | .offsetDateTime moment =>
    .text (String.ofList (moment.writeShort?.getD moment.write))
  | value => value

/-- Whether an operand is converted to the same value of a kind before and after it was sent as
JSON, where it is converted at all. -/
def IsKeptBy (kind : FieldKind) : Value → Prop
  | .date _ | .dateTime _ => kind.isScalar = true
  | .offsetDateTime moment =>
    kind.isScalar = true ∧ (kind = .text → moment.offset.seconds ≠ 0)
  | _ => True

/-- What an operand is read as has the same JSON as the operand. -/
theorem toJson?_exchanged {value : Value} {written : Json} (writes : value.toJson? = some written) :
    value.exchanged.toJson? = some written := by
  -- Dates are texts in JSON already, and so what they are read as has the same JSON.
  cases value with
  | null | bool | int | float | text | date | dateTime => exact writes
  | offsetDateTime moment =>
    obtain ⟨content, short, same⟩ := Option.map_eq_some_iff.mp writes
    rw [exchanged, short, Option.getD_some, toJson?, same]

/-- Apart from floats, operands are read as null, truth values, integers and texts. -/
theorem isPlain_exchanged {value : Value} (exact : ∀ number, value ≠ .float number) :
    value.exchanged.IsPlain := by
  -- Dates have become texts, which are plain.
  cases value with
  | null | bool | int | text | date | dateTime | offsetDateTime => trivial
  | float number => exact absurd rfl (exact number)

/-- To a scalar kind, an operand that is not null is converted as the text that it is written as. -/
theorem coerce_text_write {raw : Value} {kind : FieldKind} (scalar : kind.isScalar = true)
    (notNull : raw.isNull = false) :
    (text (String.ofList raw.write)).coerce kind = raw.coerce kind := by
  -- Scalar kinds read a rendering, and that of a text is the text.
  have content : (text (String.ofList raw.write)).write = raw.write := String.toList_ofList
  rw [coerce, coerce, if_pos scalar, if_pos scalar, notNull, display, display, content, isNull]
  exact nofun

/-- A kind that is no scalar takes every operand as it is. -/
theorem coerce_of_not_isScalar {kind : FieldKind} (opaqueKind : kind.isScalar = false) (raw : Value) :
    raw.coerce kind = .ok raw := by
  -- Only scalar kinds read the rendering of an operand.
  rw [coerce, opaqueKind, if_neg Bool.false_ne_true]

/-- In universal time, only texts and offset date-times are read from how an offset date-time is
written. -/
theorem read?_write_of_utc {moment : OffsetDateTime} (utc : moment.offset.seconds = 0)
    {kind : FieldKind} (notText : kind ≠ .text) (notMoment : kind ≠ .offsetDateTime) :
    kind.read? moment.write = none := by
  -- The rendering has a colon in it and an offset at its end, and each kind stumbles over one of
  -- them.
  have real := moment.utc.isReal_toWallClock
  have written := moment.write_of_utc utc
  have colon : ':' ∈ moment.write := by
    rw [written]
    exact List.mem_append_right _ (by decide)
  cases kind with
  | text => exact absurd rfl notText
  | offsetDateTime => exact absurd rfl notMoment
  | int | long => rw [FieldKind.read?, Numeral.integer?_eq_none_of_colon colon, Option.bind_none,
      Option.map_none]
  | float | double =>
    rw [FieldKind.read?, FloatNumeral.ofText?_eq_none_of_colon colon, Option.map_none]
  | bool =>
    -- Neither word has a colon in it.
    have notWord (truth : Bool) : moment.write ≠ writeBool truth := by
      intro same
      rw [same] at colon
      cases truth <;> exact absurd colon (by decide)
    rw [FieldKind.read?, readBool?, if_neg (notWord true), if_neg (notWord false), Option.map_none]
  -- A date leaves the time unread, and a local date-time leaves the offset.
  | date =>
    rw [FieldKind.read?, written, Date.read?_write_append real, Option.map_none]
  | dateTime =>
    have stops : Stops TextReader.isSecondPart ['+', '0', '0', ':', '0', '0'] :=
      stops_cons rfl _
    rw [FieldKind.read?, written, DateTime.read?_write_append real stops (List.cons_ne_nil _ _),
      Option.map_none]
  | relation | collection | other => rfl

/-- What a scalar kind reads from how an operand is written, if the operand is not null, is what the
operand is converted to. -/
theorem coerce_eq_ok_iff {raw native : Value} {kind : FieldKind} (scalar : kind.isScalar = true)
    (notNull : raw.isNull = false) :
    raw.coerce kind = .ok native ↔ kind.read? raw.write = some native := by
  -- Null alone is refused without a look at its rendering.
  rw [coerce, if_pos scalar, notNull, if_neg Bool.false_ne_true]
  cases kind.read? raw.write <;> simp

/-- In universal time, an offset date-time is converted to the same value after it was sent as JSON,
unless it is converted to a text. -/
theorem coerce_exchanged_of_utc {moment : OffsetDateTime} {native : Value} {kind : FieldKind}
    (utc : moment.offset.seconds = 0) (scalar : kind.isScalar = true)
    (converts : (Value.offsetDateTime moment).coerce kind = .ok native) :
    ∃ again, (Value.offsetDateTime moment).exchanged.coerce kind = .ok again ∧
      (again = native ↔ kind ≠ .text) := by
  -- The rendering ends with digits before, and with the letter afterwards.
  have reads := (coerce_eq_ok_iff scalar rfl).mp converts
  rw [write] at reads
  -- The operand is sent as a text, with the letter for the offset zero.
  have sent : (Value.offsetDateTime moment).exchanged =
      .text (String.ofList (moment.utc.toWallClock.write ++ ['Z'])) := by
    rw [exchanged, moment.writeShort?_of_utc utc, Option.getD_some]
  have content : (Value.offsetDateTime moment).exchanged.write =
      moment.utc.toWallClock.write ++ ['Z'] := by
    rw [sent, write, String.toList_ofList]
  have notNull : (Value.offsetDateTime moment).exchanged.isNull = false := by
    rw [sent]
    rfl
  simp only [coerce_eq_ok_iff scalar notNull, content]
  by_cases text : kind = .text
  · -- As texts, the letter and the digits of the offset are told apart.
    subst text
    cases reads
    -- The local times are written alike, so the two ends would have to be the same.
    refine ⟨_, rfl, iff_of_false ?_ (not_not.mpr rfl)⟩
    rw [moment.write_of_utc utc, text.injEq, String.ofList_inj]
    exact fun same => absurd (List.append_cancel_left same) (by decide)
  by_cases isMoment : kind = .offsetDateTime
  · -- As offset date-times, they are the same one.
    subst isMoment
    have same : OffsetDateTime.read? (moment.utc.toWallClock.write ++ ['Z']) =
        OffsetDateTime.read? (moment.utc.toWallClock.write ++ ['+', '0', '0', ':', '0', '0']) :=
      OffsetDateTime.read?_write_append moment.utc.isReal_toWallClock (stops_cons rfl _)
        (stops_cons rfl _) rfl
    rw [moment.write_of_utc utc] at reads
    refine ⟨native, ?_, iff_of_true rfl text⟩
    rw [FieldKind.read?, same]
    exact reads
  · -- All other kinds have refused the operand in the first place.
    rw [read?_write_of_utc utc text isMoment] at reads
    cases reads

/-- An operand that is converted before it is sent as JSON is converted afterwards as well, and to
the same value exactly if the kind keeps it. -/
theorem coerce_exchanged {raw native : Value} {kind : FieldKind} {written : Json}
    (writes : raw.toJson? = some written) (converts : raw.coerce kind = .ok native) :
    ∃ again, raw.exchanged.coerce kind = .ok again ∧ (again = native ↔ raw.IsKeptBy kind) := by
  -- It matters whether the kind converts at all, and what is converted.
  cases scalar : kind.isScalar with
  | false =>
    -- Without conversion, only what stays as it is compares equal afterwards.
    rw [coerce_of_not_isScalar scalar] at converts
    cases converts
    refine ⟨_, coerce_of_not_isScalar scalar _, ?_⟩
    cases raw <;> simp [exchanged, IsKeptBy, scalar]
  | true =>
    cases raw with
    | null | bool | int | float | text => exact ⟨native, converts, iff_of_true rfl trivial⟩
    -- Dates are written as JSON in the way in which they are written for the conversion.
    | date day =>
      have same := @coerce_text_write (.date day) kind scalar rfl
      exact ⟨native, same.trans converts, iff_of_true rfl scalar⟩
    | dateTime moment =>
      have same := @coerce_text_write (.dateTime moment) kind scalar rfl
      exact ⟨native, same.trans converts, iff_of_true rfl scalar⟩
    | offsetDateTime moment =>
      by_cases utc : moment.offset.seconds = 0
      · obtain ⟨again, convertsAgain, kept⟩ := coerce_exchanged_of_utc utc scalar converts
        refine ⟨again, convertsAgain, kept.trans ?_⟩
        simp [IsKeptBy, scalar, utc]
      · -- Elsewhere, so are offset date-times.
        obtain ⟨content, short, -⟩ := Option.map_eq_some_iff.mp writes
        have same := moment.writeShort?_of_ne_utc utc short
        have sent : (Value.offsetDateTime moment).exchanged =
            .text (String.ofList (Value.offsetDateTime moment).write) := by
          rw [exchanged, short, Option.getD_some, same, write]
        rw [sent, coerce_text_write scalar rfl]
        exact ⟨native, converts, iff_of_true rfl ⟨scalar, fun _ => utc⟩⟩

end Value

end Criteria
