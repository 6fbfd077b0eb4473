import Criteria.Proofs.Number.Rounding
import Criteria.Proofs.Value.Order

/-! Comparing values chains, except by way of a float that stands for two different integers. -/

namespace Criteria

namespace Double

/-- Doubles have an order exactly when both have a place, and then it is the order of the places. -/
theorem compare?_eq_some_iff {left right : Double} {order : Ordering} :
    left.compare? right = some order ↔ ∃ below above, left.place? = some below ∧
      right.place? = some above ∧ compare below above = order := by
  -- There is nothing to compare unless both have a place.
  unfold compare?
  cases left.place? <;> cases right.place? <;> simp

/-- The order of two doubles turns round with them. -/
theorem compare?_swap (left right : Double) :
    right.compare? left = (left.compare? right).map Ordering.swap := by
  -- Without a place on either side there is no order, and otherwise places are compared.
  unfold compare?
  cases left.place? with
  | none => cases right.place? <;> rfl
  | some below =>
    cases right.place? with
    | none => rfl
    | some above => exact congrArg some Std.OrientedCmp.eq_swap

end Double

namespace Value

/-- The family that a value has an order in: its variant, with integers and floats in one.

Null is in none, and neither is the float that is not a number. -/
def family? : Value → Option String
  | .null => none
  | .int _ => some "Number"
  | .float number => number.place?.map fun _ => "Number"
  | value => some value.typeName

/-- The numbers that a value is placed by in its family, an integer as the float nearest to it. -/
def level : Value → List Int
  | .int number => [Double.integerPlace number.toInt]
  | value => value.place

/-- Two values have an order. -/
def IsComparable (left right : Value) : Prop :=
  ∃ order, left.compare? right = some order

/-- Two values have an order, and the first of them does not come after the second. -/
def IsAtMost (left right : Value) : Prop :=
  ∃ order, left.compare? right = some order ∧ order ≠ .gt

/-- A float is the nearest to two integers that differ. -/
def Merges (nearest left right : Value) : Prop :=
  ∃ number first second, nearest = .float number ∧ left = .int first ∧ right = .int second ∧
    first ≠ second ∧ (Double.ofInt first.toInt).compare? number = some .eq ∧
    (Double.ofInt second.toInt).compare? number = some .eq

variable {a b c left right nearest : Value} {order : Ordering}

/-- The order of two values of one variant turns round with them. -/
theorem compare?_swap_of_typeName_eq (same : left.typeName = right.typeName)
    (leftPresent : left ≠ .null) (rightPresent : right ≠ .null)
    (leftNumber : left ≠ .float .nan) (rightNumber : right ≠ .float .nan) :
    right.compare? left = (left.compare? right).map Ordering.swap := by
  -- Both orders are those of the same two places.
  rw [compare?_eq_compare same leftPresent leftNumber rightNumber,
    compare?_eq_compare same.symm rightPresent rightNumber leftNumber]
  exact congrArg some Std.OrientedCmp.eq_swap

/-- The order of two values turns round with them. -/
theorem compare?_swap (left right : Value) :
    right.compare? left = (left.compare? right).map Ordering.swap := by
  -- Without an order there is none the other way either.
  cases left <;> cases right <;> try rfl
  case int.float first number => exact Double.compare?_swap _ _
  case float.int number second => exact Double.compare?_swap _ _
  case float.float number other => exact Double.compare?_swap _ _
  all_goals exact compare?_swap_of_typeName_eq rfl nofun nofun nofun nofun

/-- Values have an order exactly when they are of one family. -/
theorem isComparable_iff : left.IsComparable right ↔
    ∃ family, left.family? = some family ∧ right.family? = some family := by
  -- The families are the variants, with one of their own for all numbers.
  unfold IsComparable
  cases left <;> cases right <;>
    simp [compare?, family?, typeName, Double.compare?_eq_some_iff, Double.place?_ofInt]

/-- Values have an order both ways or neither way. -/
theorem IsComparable.symm (comparable : left.IsComparable right) : right.IsComparable left := by
  -- Being of one family makes no difference between the two.
  obtain ⟨family, leftMember, rightMember⟩ := isComparable_iff.mp comparable
  exact isComparable_iff.mpr ⟨family, rightMember, leftMember⟩

/-- Values that have an order to one value have an order to each other. -/
theorem IsComparable.trans (first : a.IsComparable b) (second : b.IsComparable c) :
    a.IsComparable c := by
  -- The value between is in one family only.
  obtain ⟨family, member, middle⟩ := isComparable_iff.mp first
  obtain ⟨other, same, last⟩ := isComparable_iff.mp second
  cases middle.symm.trans same
  exact isComparable_iff.mpr ⟨family, member, last⟩

/-- The order of two values is that of their levels, unless both are integers. -/
theorem order_of_compare? (ordered : left.compare? right = some order) :
    (∃ first second, left = .int first ∧ right = .int second ∧
      order = compare first.toInt second.toInt) ∨ order = compare left.level right.level := by
  -- Only integers are compared with each other otherwise than by their levels.
  cases left <;> cases right <;> try (cases ordered; done)
  case int.int first second =>
    exact .inl ⟨first, second, rfl, rfl, (Option.some.inj ordered).symm⟩
  -- An integer is compared with a float as the double nearest to it.
  case int.float first number =>
    obtain ⟨below, above, leftPlace, rightPlace, rfl⟩ := Double.compare?_eq_some_iff.mp ordered
    cases (Double.place?_ofInt _).symm.trans leftPlace
    simp [level, place, rightPlace]
  case float.int number second =>
    obtain ⟨below, above, leftPlace, rightPlace, rfl⟩ := Double.compare?_eq_some_iff.mp ordered
    cases (Double.place?_ofInt _).symm.trans rightPlace
    simp [level, place, leftPlace]
  case float.float number other =>
    obtain ⟨below, above, leftPlace, rightPlace, rfl⟩ := Double.compare?_eq_some_iff.mp ordered
    simp [level, place, leftPlace, rightPlace]
  -- All others compare as the places of two values of one variant, which are their levels.
  all_goals
    refine .inr (Option.some.inj (ordered.symm.trans (compare?_eq_compare rfl ?_ ?_ ?_))) <;> simp

/-- Integers have the level of the double nearest to them, which grows with them. -/
theorem IsAtMost.isLE_level (atMost : left.IsAtMost right) :
    (compare left.level right.level).isLE = true := by
  -- Integers may be compared exactly, but rounding keeps their order.
  obtain ⟨order, ordered, ascends⟩ := atMost
  rcases order_of_compare? ordered with ⟨first, second, rfl, rfl, rfl⟩ | rfl
  · have below := Int.isLE_compare.mp (Ordering.isLE_iff_ne_gt.mpr ascends)
    simpa [level, Int.isLE_compare] using Double.integerPlace_mono below
  · exact Ordering.isLE_iff_ne_gt.mpr ascends

/-- Two values, neither of which comes after the other, compare equal. -/
theorem IsAtMost.antisymm (atMost : left.IsAtMost right) (atLeast : right.IsAtMost left) :
    left.compare? right = some .eq := by
  -- The order the other way is the one turned round, so it is neither less nor greater.
  obtain ⟨order, ordered, ascends⟩ := atMost
  obtain ⟨turned, back, descends⟩ := atLeast
  rw [compare?_swap left right, ordered] at back
  cases back
  cases order with
  | lt => exact absurd rfl descends
  | eq => exact ordered
  | gt => exact absurd rfl ascends

/-- A value that is at most another has an order to it. -/
theorem IsAtMost.isComparable (atMost : left.IsAtMost right) : left.IsComparable right := by
  obtain ⟨order, ordered, -⟩ := atMost
  exact ⟨order, ordered⟩

/-- Between two values of one level, every value is of that level. -/
theorem IsAtMost.level_eq (first : a.IsAtMost b) (second : b.IsAtMost c)
    (level : (compare c.level a.level).isLE = true) : a.level = b.level ∧ b.level = c.level := by
  -- Levels do not descend on the way, and do not ascend from its end to its start.
  have down := Std.TransCmp.isLE_trans second.isLE_level level
  have up := Std.TransCmp.isLE_trans level first.isLE_level
  exact ⟨Std.compare_eq_iff_eq.mp (Std.OrientedCmp.isLE_antisymm first.isLE_level down),
    Std.compare_eq_iff_eq.mp (Std.OrientedCmp.isLE_antisymm second.isLE_level up)⟩

/-- Values of one level compare equal, unless they are integers that differ. -/
theorem IsAtMost.eq_or_integers (atMost : left.IsAtMost right)
    (level : left.level = right.level) : left.compare? right = some .eq ∨
      ∃ first second, left = .int first ∧ right = .int second ∧ first ≠ second := by
  -- Apart from two integers, values are compared by their levels.
  obtain ⟨order, ordered, -⟩ := atMost
  rcases order_of_compare? ordered with ⟨first, second, rfl, rfl, rfl⟩ | rfl
  · by_cases same : first = second
    · subst same
      exact .inl (ordered.trans (congrArg some Std.ReflCmp.compare_self))
    · exact .inr ⟨first, second, rfl, rfl, same⟩
  · rw [level] at ordered
    exact .inl (ordered.trans (congrArg some Std.ReflCmp.compare_self))

/-- A value of the level of two integers that differ, but no integer itself, is the float nearest to
both. -/
theorem merges_of_level_eq {first second : Int64} {order : Ordering} (apart : first ≠ second)
    (ordered : (Value.int first).compare? nearest = some order)
    (plain : ¬∃ number, nearest = .int number)
    (firstLevel : (Value.int first).level = nearest.level)
    (secondLevel : (Value.int second).level = nearest.level) :
    nearest.Merges (.int first) (.int second) := by
  -- A value that has an order to an integer is a number, and it is no integer.
  cases nearest with
  | int number => exact absurd ⟨number, rfl⟩ plain
  | float number =>
    -- Being level with an integer is being the nearest float to it.
    obtain ⟨below, above, -, placed, -⟩ := Double.compare?_eq_some_iff.mp ordered
    simp only [level, place, placed, Option.getD_some, List.cons.injEq, and_true] at firstLevel secondLevel
    refine ⟨number, first, second, rfl, rfl, rfl, apart, ?_, ?_⟩
    · exact Double.compare?_eq_some_iff.mpr
        ⟨_, _, Double.place?_ofInt _, placed, Int.compare_eq_eq.mpr firstLevel⟩
    · exact Double.compare?_eq_some_iff.mpr
        ⟨_, _, Double.place?_ofInt _, placed, Int.compare_eq_eq.mpr secondLevel⟩
  | null | bool | text | date | dateTime | offsetDateTime => cases ordered

/-- Of two integers, one is at most the other as a number. -/
theorem isAtMost_int_iff {first second : Int64} :
    (Value.int first).IsAtMost (.int second) ↔ first.toInt ≤ second.toInt := by
  -- Two integers are compared as they are, without rounding.
  rw [← Int.isLE_compare, Ordering.isLE_iff_ne_gt]
  simp [IsAtMost, compare?, compareOfLessAndEq_int]

/-- Integers compare equal only if they are the same. -/
theorem compare?_int_eq_iff {first second : Int64} :
    (Value.int first).compare? (.int second) = some .eq ↔ first = second := by
  -- Integers are compared as the numbers that they are.
  rw [← Int64.toInt_inj, ← Int.compare_eq_eq]
  simp [compare?, compareOfLessAndEq_int]

/-- A float that merges two integers compares equal to both, though they differ. -/
theorem Merges.compare? (merges : nearest.Merges left right) :
    left.compare? nearest = some .eq ∧ right.compare? nearest = some .eq ∧
      left.compare? right ≠ some .eq := by
  -- The float is the nearest to each of them, and integers are compared exactly.
  obtain ⟨number, first, second, rfl, rfl, rfl, apart, firstNearest, secondNearest⟩ := merges
  refine ⟨firstNearest, secondNearest, ?_⟩
  rwa [Ne, compare?_int_eq_iff]

/-- A value that compares equal to another does so the other way round. -/
theorem compare?_eq_symm (equal : left.compare? right = some .eq) :
    right.compare? left = some .eq := by
  -- An order that is turned round stays that of equals.
  rw [compare?_swap left right, equal]
  rfl

/-- Of values that ascend by way of a middle one, the first is at most the last, unless they are
integers in descending order that the middle one merges. -/
theorem IsAtMost.trans_iff (first : a.IsAtMost b) (second : b.IsAtMost c) :
    a.IsAtMost c ↔ ¬(b.Merges a c ∧ a.compare? c = some .gt) := by
  -- By way of the middle value, the first and the last have an order, and it is left to see which.
  obtain ⟨order, ordered⟩ := first.isComparable.trans second.isComparable
  constructor
  · -- What descends is not at most, whether the middle value merges the others or not.
    rintro ⟨other, same, ascends⟩ ⟨-, descends⟩
    cases same.symm.trans descends
    exact ascends rfl
  · -- If they descend, the middle value has to be the float that both are rounded to.
    intro unmerged
    refine ⟨order, ordered, ?_⟩
    rintro rfl
    refine unmerged ⟨?_, ordered⟩
    rcases order_of_compare? ordered with ⟨high, low, rfl, rfl, descends⟩ | descends
    · -- Levels cannot descend with the integers, so they stay the same all the way.
      have below : low.toInt < high.toInt := Int.compare_eq_gt.mp descends.symm
      have down := (isAtMost_int_iff.mpr (Int.le_of_lt below)).isLE_level
      obtain ⟨highLevel, lowLevel⟩ := first.level_eq second down
      -- Between two integers, a third one would keep them in order.
      by_cases integer : ∃ number, b = .int number
      · obtain ⟨number, rfl⟩ := integer
        have above := isAtMost_int_iff.mp first
        have under := isAtMost_int_iff.mp second
        omega
      · have apart : high ≠ low := by
          rintro rfl
          omega
        obtain ⟨order, between, -⟩ := first
        exact merges_of_level_eq apart between integer highLevel lowLevel.symm
    · -- Where the order is that of the levels, it passes over the middle value.
      have ascends := Std.TransCmp.isLE_trans first.isLE_level second.isLE_level
      rw [← descends] at ascends
      cases ascends

/-- Of three values on one level, two are equal unless the third one merges them or all three are
integers. -/
theorem IsAtMost.eq_or_merges (atMost : left.IsAtMost right) (level : left.level = right.level)
    (ordered : left.compare? nearest = some order) (nearestLevel : left.level = nearest.level) :
    left.compare? right = some .eq ∨ nearest.Merges left right ∨
      ∃ first second third, left = .int first ∧ right = .int second ∧ nearest = .int third := by
  -- Two integers that differ on a level are merged by what else is on it, unless that is one too.
  rcases atMost.eq_or_integers level with same | ⟨first, second, rfl, rfl, apart⟩
  · exact .inl same
  by_cases integer : ∃ third, nearest = .int third
  · obtain ⟨third, rfl⟩ := integer
    exact .inr (.inr ⟨first, second, third, rfl, rfl, rfl⟩)
  · have secondLevel := level.symm.trans nearestLevel
    exact .inr (.inl (merges_of_level_eq apart ordered integer nearestLevel secondLevel))

/-- Values that ascend from one to an equal one are all equal, unless the one at an end merges the
two others. -/
theorem IsAtMost.eq_iff (first : a.IsAtMost b) (second : b.IsAtMost c)
    (equal : a.compare? c = some .eq) :
    (a.compare? b = some .eq ∧ b.compare? c = some .eq) ↔ ¬(c.Merges a b ∨ a.Merges b c) := by
  -- All three values are on one level, as the first and the last are.
  constructor
  · -- Integers that are merged differ, so they are not equal to each other.
    rintro ⟨firstEqual, secondEqual⟩ (merges | merges)
    · exact merges.compare?.2.2 firstEqual
    · exact merges.compare?.2.2 secondEqual
  · intro unmerged
    have back : c.IsAtMost a := ⟨.eq, compare?_eq_symm equal, nofun⟩
    obtain ⟨firstLevel, secondLevel⟩ := first.level_eq second back.isLE_level
    constructor
    -- If all three are integers, the two at the ends are one.
    · have lastLevel := firstLevel.trans secondLevel
      rcases first.eq_or_merges firstLevel equal lastLevel with same | merges | integers
      · exact same
      · exact absurd (.inl merges) unmerged
      · obtain ⟨low, middle, high, rfl, rfl, rfl⟩ := integers
        cases compare?_int_eq_iff.mp equal
        exact first.antisymm second
    · -- The other end is dealt with in the same way, from the first value.
      obtain ⟨turned, ordered⟩ := first.isComparable.symm
      rcases second.eq_or_merges secondLevel ordered firstLevel.symm with same | merges | integers
      · exact same
      · exact absurd (.inr merges) unmerged
      · obtain ⟨middle, high, low, rfl, rfl, rfl⟩ := integers
        cases compare?_int_eq_iff.mp equal
        exact second.antisymm first

/-- The order of two values turns round with them.

Of values that ascend by way of a middle one, the first is at most the last, and equal to it only if
both are equal to the middle one, just when no float among the three is the nearest to the two
others, different integers: not as the first or the last value, and not as the middle one if the
integers descend. -/
theorem compare?_ascends_iff (a b c : Value) :
    b.compare? a = (a.compare? b).map Ordering.swap ∧
    (a.IsAtMost b → b.IsAtMost c →
      ((a.IsAtMost c ∧
          (a.compare? c = some .eq → a.compare? b = some .eq ∧ b.compare? c = some .eq)) ↔
        ¬(c.Merges a b ∨ a.Merges b c ∨ b.Merges a c ∧ a.compare? c = some .gt))) := by
  -- The first part is about the middle value, and the second about those at the ends.
  refine ⟨compare?_swap a b, fun first second => ?_⟩
  rw [first.trans_iff second]
  constructor
  · -- A float that merges its neighbours equals them, although they differ.
    rintro ⟨unmerged, equals⟩ (merges | merges | merges)
    · obtain ⟨equal, -, -⟩ := merges.compare?
      exact (first.eq_iff second equal).mp (equals equal) (.inl merges)
    · obtain ⟨-, equal, -⟩ := merges.compare?
      have back := compare?_eq_symm equal
      exact (first.eq_iff second back).mp (equals back) (.inr merges)
    · exact unmerged merges
  · -- Without any merging, the ends are level only if the middle value is level with both.
    intro unmerged
    refine ⟨fun merges => unmerged (.inr (.inr merges)), fun equal => ?_⟩
    refine (first.eq_iff second equal).mpr ?_
    rintro (merges | merges)
    · exact unmerged (.inl merges)
    · exact unmerged (.inr (.inl merges))

/-- The double up to which every whole number is one. -/
def lastExact : Double := .ofInt 9007199254740992

/-- The last whole number up to which doubles are exact ascends to the second one after it, by way of
the one between, which no double equals. -/
theorem compare?_ascends_iff_lastExact :
    (Value.float lastExact).IsAtMost (.int 9007199254740993) ∧
      (Value.int 9007199254740993).IsAtMost (.int 9007199254740994) ∧
      (Value.float lastExact).IsAtMost (.int 9007199254740994) := by
  have first : (Value.float lastExact).IsAtMost (.int 9007199254740993) :=
    ⟨.eq, by decide +kernel, nofun⟩
  have second : (Value.int 9007199254740993).IsAtMost (.int 9007199254740994) :=
    ⟨.lt, by decide, nofun⟩
  refine ⟨first, second, (((compare?_ascends_iff _ _ _).2 first second).mpr ?_).1⟩
  -- The float is the nearest to the first of the integers only.
  rintro (merges | merges | ⟨merges, -⟩)
  · obtain ⟨number, _, _, integer, -⟩ := merges
    cases integer
  · obtain ⟨-, near, -⟩ := merges.compare?
    revert near
    decide +kernel
  · obtain ⟨number, _, _, integer, -⟩ := merges
    cases integer

/-- An integer is at most a float, and that at most a lesser integer. -/
theorem exists_float_between_descending :
    (Value.int 9007199254740993).IsAtMost (.float lastExact) ∧
      (Value.float lastExact).IsAtMost (.int 9007199254740992) ∧
      ¬(Value.int 9007199254740993).IsAtMost (.int 9007199254740992) := by
  -- Both integers are rounded to the float, so they compare equal to it.
  refine ⟨⟨.eq, by decide +kernel, nofun⟩, ⟨.eq, by decide +kernel, nofun⟩, ?_⟩
  rw [isAtMost_int_iff]
  decide

end Value

end Criteria
