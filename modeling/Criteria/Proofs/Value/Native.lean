import Criteria.Value.Coercion
import Mathlib.Order.Basic

/-! The values that attributes of a scalar kind store, which converting an operand gives. -/

namespace Criteria

/-- Whether a value is one that attributes of a scalar kind store. -/
def FieldKind.IsNative : FieldKind → Value → Prop
  | .text, .text _ => True
  | .int, .int number => -0x80000000 ≤ number.toInt ∧ number.toInt < 0x80000000
  | .long, .int _ => True
  | .float, .float _ => True
  | .double, .float _ => True
  | .bool, .bool _ => True
  | .date, .date _ => True
  | .dateTime, .dateTime _ => True
  | .offsetDateTime, .offsetDateTime _ => True
  | _, _ => False

/-- Only the kind of texts is text. -/
theorem FieldKind.eq_text_of_isText {kind : FieldKind} (isText : kind.isText = true) :
    kind = .text := by
  -- The kinds are gone through, and each other one is not of texts.
  cases kind <;> first | rfl | cases isText

/-- Only the kind of truth values is a truth value. -/
theorem FieldKind.eq_bool_of_isBool {kind : FieldKind} (isBool : kind.isBool = true) :
    kind = .bool := by
  -- The kinds are gone through, and each other one is not of truth values.
  cases kind <;> first | rfl | cases isBool

/-- An integer that fits 32 bits is bounded as such. -/
theorem toInt_of_boundedInt? {number : Int} {word : Int64}
    (fits : boundedInt? 32 number = some word) :
    -0x80000000 ≤ word.toInt ∧ word.toInt < 0x80000000 := by
  -- The bounds are those of 32 bits.
  unfold boundedInt? at fits
  simp only [Option.ite_none_right_eq_some, Option.some.injEq] at fits
  obtain ⟨⟨least, below⟩, rfl⟩ := fits
  have bound : ((Nat.pow 2 (32 - 1) : Nat) : Int) = 0x80000000 := by decide
  rw [bound] at least below
  -- What fits 32 bits fits 64, so the word stands for the number itself.
  rw [Int64.toInt_ofInt_of_le (by omega) (by omega)]
  exact ⟨least, below⟩

/-- What is read as a value of a scalar kind is one that attributes of the kind store. -/
theorem FieldKind.isNative_of_read? {kind : FieldKind} {text : List Char} {value : Value}
    (reads : kind.read? text = some value) : kind.IsNative value := by
  -- Each kind reads values of its own variant, and only the shorter integers have a range to keep.
  cases kind with
  | text =>
    cases reads
    trivial
  | int =>
    obtain ⟨word, fits, rfl⟩ := Option.map_eq_some_iff.mp reads
    obtain ⟨number, -, bounded⟩ := Option.bind_eq_some_iff.mp fits
    exact toInt_of_boundedInt? bounded
  -- The other scalars have values of their variant only.
  | long | float | double | bool | date | dateTime | offsetDateTime =>
    obtain ⟨read, -, rfl⟩ := Option.map_eq_some_iff.mp reads
    trivial
  -- What is no scalar reads nothing.
  | relation | collection | other => cases reads

/-- What an operand is converted to is a value that attributes of the kind store, if it is a scalar
kind. -/
theorem Value.isNative_of_coerce {raw native : Value} {kind : FieldKind}
    (scalar : kind.isScalar = true) (converts : raw.coerce kind = .ok native) :
    kind.IsNative native := by
  -- Null is refused, and everything else is read from its rendering.
  rw [coerce, if_pos scalar] at converts
  split at converts
  · rename_i reads
    cases converts
    split at reads
    · cases reads
    · exact FieldKind.isNative_of_read? reads
  · cases converts

end Criteria
