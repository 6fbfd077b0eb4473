import Criteria.Proofs.Predicate.Evaluation
import Mathlib.Data.List.Basic
import Mathlib.Order.Defs.LinearOrder

/-! The order of values for sorting, read off a place that each value has. -/

namespace Criteria

/-- Natural numbers compare as the integers that they are. -/
theorem compareOfLessAndEq_natCast (left right : Nat) :
    compareOfLessAndEq left right = compare (left : Int) (right : Int) := by
  -- Natural numbers are less or equal just when they are so as integers.
  change _ = compareOfLessAndEq (left : Int) (right : Int)
  unfold compareOfLessAndEq
  split_ifs <;> first | rfl | omega

/-- Integers are compared by the one comparison there is for them. -/
theorem compareOfLessAndEq_int (left right : Int) :
    compareOfLessAndEq left right = compare left right :=
  rfl

/-- The numbers that a day is placed by, the year first. -/
def Day.place (day : Day) : List Int :=
  [day.year, day.month, day.day]

/-- Days compare as their places do. -/
theorem Day.order_eq_compare (left right : Day) :
    left.order right = compare left.place right.place := by
  -- Years are compared first, then months, then days, as the lists are.
  simp only [order, place, List.compare_cons_cons, List.compare_nil_nil, Ordering.then_eq,
    compareOfLessAndEq_natCast, compareOfLessAndEq_int]

/-- The numbers that a date-time is placed by, those of its date first. -/
def DateTime.place (moment : DateTime) : List Int :=
  [moment.date.toDay.year, moment.date.toDay.month, moment.date.toDay.day, moment.time.second,
    moment.time.nanosecond]

/-- Date-times compare as their places do. -/
theorem DateTime.order_eq_compare (left right : DateTime) :
    left.order right = compare left.place right.place := by
  -- The date is compared before the time, as its numbers come first in the lists.
  simp only [order, Date.order, Day.order, TimeOfDay.order, place, List.compare_cons_cons,
    List.compare_nil_nil, Ordering.then_eq, Ordering.then_assoc, compareOfLessAndEq_natCast,
    compareOfLessAndEq_int]

/-- Texts compare as the lists of their characters' code points do. -/
theorem textOrder_eq_compare (left right : List Char) :
    textOrder left right = compare (left.map fun c => (c.toNat : Int))
      (right.map fun c => (c.toNat : Int)) := by
  -- Both go from one character to the next, and a text that ends first comes first.
  induction left generalizing right with
  | nil => cases right <;> rfl
  | cons c left ih =>
    cases right with
    | nil => rfl
    | cons d right =>
      rw [textOrder, List.map_cons, List.map_cons, List.compare_cons_cons, ih,
        compareOfLessAndEq_natCast]

/-- A text that comes after another one is preceded by it. -/
theorem textOrder_eq_gt_iff {left right : List Char} :
    textOrder left right = .gt ↔ textOrder right left = .lt := by
  -- Lists of numbers are ordered, and texts with them.
  rw [textOrder_eq_compare, textOrder_eq_compare]
  exact Std.OrientedCmp.gt_iff_lt

/-- A text that precedes a second one precedes what the second one precedes. -/
theorem textOrder_eq_lt_trans {first second third : List Char}
    (before : textOrder first second = .lt) (after : textOrder second third = .lt) :
    textOrder first third = .lt := by
  -- Lists of numbers are ordered, and texts with them.
  rw [textOrder_eq_compare] at *
  exact Std.TransCmp.lt_trans before after

namespace Value

/-- The numbers that a value is placed by among the values of its variant. -/
def place : Value → List Int
  | .null => []
  | .bool truth => [if truth then 1 else 0]
  | .int number => [number.toInt]
  | .float number => [number.place?.getD 0]
  | .text content => content.toList.map fun c => (c.toNat : Int)
  | .date day => day.toDay.place
  | .dateTime moment => moment.place
  | .offsetDateTime moment => moment.utc.place

/-- Whether a value is null or else of a variant, but not the float that is not a number. -/
def Fits (variant : String) (value : Value) : Prop :=
  value = .null ∨ value.typeName = variant ∧ value ≠ .float .nan

/-- Two values of one variant compare as their places do. -/
theorem compare?_eq_compare {left right : Value} (same : left.typeName = right.typeName)
    (present : left ≠ .null) (leftNumber : left ≠ .float .nan) (rightNumber : right ≠ .float .nan) :
    left.compare? right = some (compare left.place right.place) := by
  -- Values of different variants have different names of variants.
  cases left <;> cases right <;> simp only [typeName, String.reduceEq] at same
  case null.null => exact absurd rfl present
  case bool.bool truth other => cases truth <;> cases other <;> rfl
  case int.int number other => simp [compare?, place, compareOfLessAndEq_int]
  -- Zeros of either sign have one place, and all other numbers one of their own.
  case float.float number other =>
    cases number with
    | nan => exact absurd rfl leftNumber
    | signed negative rank =>
      cases other with
      | nan => exact absurd rfl rightNumber
      | signed otherNegative otherRank =>
        cases negative <;> cases otherNegative <;>
          simp [compare?, Double.compare?, Double.place?, place]
  -- Texts, dates and times are compared as the library compares their places.
  case text.text content other => exact congrArg some (textOrder_eq_compare _ _)
  case date.date day other => exact congrArg some (Day.order_eq_compare _ _)
  case dateTime.dateTime moment other => exact congrArg some (DateTime.order_eq_compare _ _)
  case offsetDateTime.offsetDateTime moment other =>
    exact congrArg some (DateTime.order_eq_compare _ _)

/-- The place of a value for sorting, where null has none and stands before all others. -/
def sortKey (value : Value) : Option (List Int) :=
  if value.isNull then none else some value.place

/-- The place of a value that is not null. -/
theorem sortKey_of_present {value : Value} (present : value ≠ .null) :
    value.sortKey = some value.place := by
  -- Null alone has no place.
  rw [sortKey, if_neg fun absent => present (isNull_iff.mp absent)]

/-- Values that are not null are sorted as they compare. -/
theorem sortOrder_of_present {left right : Value} (leftPresent : left ≠ .null)
    (rightPresent : right ≠ .null) :
    left.sortOrder right = (left.compare? right).getD .eq := by
  -- Null is asked for first, on either side.
  have leftSome : left.isNull = false := by
    simpa using not_isNull_iff.mpr leftPresent
  have rightSome : right.isNull = false := by
    simpa using not_isNull_iff.mpr rightPresent
  rw [sortOrder, leftSome, rightSome]

/-- Values that fit one variant and are not null compare as their places do. -/
theorem Fits.compare?_eq {variant : String} {left right : Value} (leftFits : left.Fits variant)
    (rightFits : right.Fits variant) (leftPresent : left ≠ .null) (rightPresent : right ≠ .null) :
    left.compare? right = some (compare left.place right.place) := by
  -- Values that fit a variant and are not null are of that variant.
  obtain ⟨leftNamed, leftNumber⟩ := leftFits.resolve_left leftPresent
  obtain ⟨rightNamed, rightNumber⟩ := rightFits.resolve_left rightPresent
  exact compare?_eq_compare (leftNamed.trans rightNamed.symm) leftPresent leftNumber rightNumber

/-- Values that fit one variant are sorted by their keys. -/
theorem Fits.sortOrder_eq_compare {variant : String} {left right : Value}
    (leftFits : left.Fits variant) (rightFits : right.Fits variant) :
    left.sortOrder right = compare left.sortKey right.sortKey := by
  -- A value that is null has no key and comes first, and the others compare.
  by_cases leftNull : left = .null
  · subst leftNull
    cases right <;> rfl
  by_cases rightNull : right = .null
  · subst rightNull
    cases left <;> rfl
  rw [sortOrder_of_present leftNull rightNull, leftFits.compare?_eq rightFits leftNull rightNull,
    sortKey_of_present leftNull, sortKey_of_present rightNull]
  rfl

/-- Two values stand level: both are null, or they compare equal. -/
def IsLevel (left right : Value) : Prop :=
  left = .null ∧ right = .null ∨ left.compare? right = some .eq

/-- A value stands below another: it alone is null, or it compares less. -/
def IsBelow (left right : Value) : Prop :=
  left = .null ∧ right ≠ .null ∨ left.compare? right = some .lt

/-- A value is sorted before another exactly when it stands below. -/
theorem sortOrder_eq_lt_iff {left right : Value} :
    left.sortOrder right = .lt ↔ left.IsBelow right := by
  -- Null is below all other values, on the left and on the right.
  by_cases leftNull : left = .null
  · subst leftNull
    cases right <;> simp [sortOrder, IsBelow, isNull, compare?]
  by_cases rightNull : right = .null
  · subst rightNull
    cases left <;> simp [sortOrder, IsBelow, isNull, compare?]
  rw [sortOrder_of_present leftNull rightNull]
  -- Values without an order are sorted as if they were level, and so never before.
  unfold IsBelow
  cases left.compare? right <;> simp [leftNull]

/-- Of values that fit one variant, one has the lesser key exactly when it stands below. -/
theorem Fits.compare_sortKey_eq_lt_iff {variant : String} {left right : Value}
    (leftFits : left.Fits variant) (rightFits : right.Fits variant) :
    compare left.sortKey right.sortKey = .lt ↔ left.IsBelow right := by
  -- Keys are ordered as the values are sorted.
  rw [← sortOrder_eq_lt_iff, leftFits.sortOrder_eq_compare rightFits]

/-- Values that fit one variant are sorted level exactly when they stand level. -/
theorem Fits.sortOrder_eq_eq_iff {variant : String} {left right : Value}
    (leftFits : left.Fits variant) (rightFits : right.Fits variant) :
    left.sortOrder right = .eq ↔ left.IsLevel right := by
  -- Null is level with null alone, on the left and on the right.
  by_cases leftNull : left = .null
  · subst leftNull
    cases right <;> simp [sortOrder, IsLevel, isNull, compare?]
  by_cases rightNull : right = .null
  · subst rightNull
    cases left <;> simp [sortOrder, IsLevel, isNull, compare?]
  rw [sortOrder_of_present leftNull rightNull, leftFits.compare?_eq rightFits leftNull rightNull]
  simp [IsLevel, leftNull, leftFits.compare?_eq rightFits leftNull rightNull]

end Value

end Criteria
