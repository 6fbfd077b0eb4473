import Criteria.Proofs.Number.Layout
import Criteria.Proofs.Value.Exchange

/-! Conversion to integers: only integers and their numerals are converted, and none of them wraps. -/

namespace Criteria

/-- A number is bounded as an integer of at most 64 bits exactly if it is within their range, and
then it stays the number that it is. -/
theorem boundedInt?_eq_some_iff {bits : Nat} (narrow : bits ≤ 64) {number : Int} {word : Int64} :
    boundedInt? bits number = some word ↔ word.toInt = number ∧
      -(Nat.pow 2 (bits - 1) : Int) ≤ number ∧ number < (Nat.pow 2 (bits - 1) : Int) := by
  -- Whatever the number of bits, their range is part of the range of 64 bits.
  have within : Nat.pow 2 (bits - 1) ≤ Nat.pow 2 63 :=
    Nat.pow_le_pow_right (by decide) (by omega)
  have widest : Nat.pow 2 63 = 9223372036854775808 := by decide
  rw [boundedInt?, Option.ite_none_right_eq_some, Option.some_inj]
  constructor
  · rintro ⟨⟨least, below⟩, rfl⟩
    refine ⟨Int64.toInt_ofInt_of_le ?_ ?_, least, below⟩ <;> omega
  · rintro ⟨rfl, range⟩
    exact ⟨range, Int64.ofInt_toInt word⟩

/-- A day that is written has a hyphen for a mark. -/
theorem Day.hasMark_write (day : Day) (rest : List Char) : Numeral.HasMark (day.write ++ rest) := by
  -- The hyphen stands behind the year, so it is not the first character.
  rw [Day.write_append]
  refine Numeral.hasMark_of_ne_nil ?_ rfl _
  -- A year has at least one digit.
  obtain ⟨first, others, digits, -⟩ := Numeral.exists_padded_eq_cons 4 day.year.natAbs
  unfold writeYear
  split
  · rw [digits]
    exact List.cons_ne_nil _ _
  · exact List.cons_ne_nil _ _

namespace Value

/-- Whether an operand stands for an integer: as the integer itself, or as a text that is one of its
numerals. -/
def StandsFor : Value → Int → Prop
  | .int whole, number => whole.toInt = number
  | .text content, number => Numeral.Denotes content.toList number
  | _, _ => False

/-- The rendering of an operand is read as an integer exactly if the operand stands for it. -/
theorem integer?_write_eq_some_iff {raw : Value} {number : Int} :
    Numeral.integer? raw.write = some number ↔ raw.StandsFor number := by
  -- A rendering with a mark is no integer, and its variant stands for none.
  have marked {text : List Char} (mark : Numeral.HasMark text) :
      Numeral.integer? text = some number ↔ False := by
    rw [Numeral.integer?_eq_none_of_hasMark mark]
    exact iff_of_false nofun id
  cases raw with
  | null => exact marked ⟨'u', List.mem_cons_self, rfl⟩
  -- Both truth values are words with letters in them.
  | bool truth =>
    cases truth
    · exact marked ⟨'a', List.mem_cons_self, rfl⟩
    · exact marked ⟨'r', List.mem_cons_self, rfl⟩
  | int whole =>
    -- An integer is written as a numeral of its own and of no other number.
    have own := Numeral.integer?_eq_some_iff.mpr (Numeral.denotes_signed whole.toInt)
    rw [write, own, StandsFor, Option.some_inj]
  -- A float has a point, an exponent or a word in it.
  | float magnitude => exact marked (floatLayout.hasMark_write magnitude)
  | text content => exact Numeral.integer?_eq_some_iff
  -- Dates have a hyphen in them, with or without a time.
  | date day =>
    have mark := day.toDay.hasMark_write []
    rw [List.append_nil] at mark
    exact marked mark
  | dateTime moment =>
    have mark := moment.toWallClock.day.hasMark_write
    rw [write, DateTime.write, ← List.append_nil moment.toWallClock.write, WallClock.write_append]
    exact marked (mark _)
  | offsetDateTime moment =>
    have mark := moment.wallClock.day.hasMark_write
    rw [write, OffsetDateTime.write, WallClock.write_append]
    exact marked (mark _)

/-- Whether an operand is converted to the integers of a range exactly: to an integer if it stands
for it, and otherwise not at all, as an error with its rendering and a name says. -/
def ConvertsExactly (raw : Value) (kind : FieldKind) (name : String) (least greatest : Int) :
    Prop :=
  (∀ native, raw.coerce kind = .ok native ↔
    ∃ number : Int64, native = .int number ∧ raw.StandsFor number.toInt ∧
      least ≤ number.toInt ∧ number.toInt ≤ greatest) ∧
  (raw.coerce kind = .error ⟨raw.display, name⟩ ↔
    ∀ number, raw.StandsFor number → ¬(least ≤ number ∧ number ≤ greatest))

/-- A conversion that gives nothing is an error with the rendering of the operand and the name of the
kind. -/
theorem coerce_eq_error_iff (raw : Value) (kind : FieldKind) :
    raw.coerce kind = .error ⟨raw.display, kind.typeName⟩ ↔
      ∀ native, raw.coerce kind ≠ .ok native := by
  -- There is one error that a conversion can give.
  unfold coerce
  split
  · split <;> simp
  · simp

/-- A kind that reads the integers of a number of bits gives the ones of their range that operands
stand for. -/
theorem coerce_eq_ok_iff_standsFor {kind : FieldKind} {bits : Nat} (scalar : kind.isScalar = true)
    (narrow : bits ≤ 64)
    (reads : ∀ text, kind.read? text = ((Numeral.integer? text).bind (boundedInt? bits)).map .int)
    (raw native : Value) :
    raw.coerce kind = .ok native ↔
      ∃ number : Int64, native = .int number ∧ raw.StandsFor number.toInt ∧
        -(Nat.pow 2 (bits - 1) : Int) ≤ number.toInt ∧
        number.toInt < (Nat.pow 2 (bits - 1) : Int) := by
  -- Null is refused before it is rendered, and all else is rendered and read.
  cases isNull : raw.isNull with
  | true =>
    -- The rendering of null is not looked at, and null stands for no integer.
    cases raw <;> cases isNull
    rw [coerce, if_pos scalar, isNull, if_pos rfl]
    constructor
    · intro converts
      cases converts
    · rintro ⟨number, -, stands, -⟩
      cases stands
  | false =>
    -- What is not null is converted by its rendering.
    rw [coerce_eq_ok_iff scalar isNull, reads, Option.map_eq_some_iff]
    constructor
    · -- The reader finds the integer of the text, which the width then bounds.
      rintro ⟨word, bounded, rfl⟩
      obtain ⟨number, read, fits⟩ := Option.bind_eq_some_iff.mp bounded
      obtain ⟨rfl, range⟩ := (boundedInt?_eq_some_iff narrow).mp fits
      exact ⟨word, rfl, integer?_write_eq_some_iff.mp read, range⟩
    · rintro ⟨word, rfl, stands, range⟩
      refine ⟨word, Option.bind_eq_some_iff.mpr ⟨word.toInt, ?_, ?_⟩, rfl⟩
      · exact integer?_write_eq_some_iff.mpr stands
      · exact (boundedInt?_eq_some_iff narrow).mpr ⟨rfl, range⟩

/-- A kind that reads the integers of a number of bits converts operands to them exactly. -/
theorem convertsExactly {kind : FieldKind} (bits : Nat) (scalar : kind.isScalar = true)
    (narrow : bits ≤ 64)
    (reads : ∀ text, kind.read? text = ((Numeral.integer? text).bind (boundedInt? bits)).map .int)
    (raw : Value) :
    raw.ConvertsExactly kind kind.typeName (-(Nat.pow 2 (bits - 1) : Int))
      ((Nat.pow 2 (bits - 1) : Int) - 1) := by
  -- The range says which numbers are given, and there is one error for all others.
  have converts := coerce_eq_ok_iff_standsFor scalar narrow reads raw
  have within : Nat.pow 2 (bits - 1) ≤ Nat.pow 2 63 :=
    Nat.pow_le_pow_right (by decide) (by omega)
  have widest : Nat.pow 2 63 = 9223372036854775808 := by decide
  simp only [ConvertsExactly, Int.le_sub_one_iff]
  refine ⟨converts, (coerce_eq_error_iff raw kind).trans ⟨?_, ?_⟩⟩
  · -- A number of the range is an integer of 64 bits, to which the operand would be converted.
    intro rejected number stands range
    have same : (Int64.ofInt number).toInt = number :=
      Int64.toInt_ofInt_of_le (by omega) (by omega)
    refine rejected _ ((converts _).mpr ⟨Int64.ofInt number, rfl, ?_⟩)
    rw [same]
    exact ⟨stands, range⟩
  · -- An integer that the operand is converted to would be one that it stands for.
    intro none native given
    obtain ⟨number, -, stands, range⟩ := (converts native).mp given
    exact none number.toInt stands range

/-- Operands are converted to integers of 32 and of 64 bits exactly: integers and their numerals to
the integers themselves, and nothing else. -/
theorem integers_convert_exactly (raw : Value) :
    raw.ConvertsExactly .int "Int" (-2147483648) 2147483647 ∧
      raw.ConvertsExactly .long "Long" (-9223372036854775808) 9223372036854775807 :=
  -- The two kinds differ in the number of bits alone.
  ⟨convertsExactly 32 rfl (by decide) (fun _ => rfl) raw,
    convertsExactly 64 rfl (by decide) (fun _ => rfl) raw⟩

end Value

end Criteria
