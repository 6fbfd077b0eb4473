import Criteria.Builder
import Criteria.Proofs.Filter.Meaning
import Mathlib.Order.Defs.LinearOrder

/-! What the tests of a row find out about the values in it. -/

namespace Criteria

/-- The orders of two values that a comparison accepts. -/
def Comparison.orders : Comparison → List Ordering
  | .equal => [.eq]
  | .notEqual => [.lt, .gt]
  | .less => [.lt]
  | .lessEqual => [.lt, .eq]
  | .greater => [.gt]
  | .greaterEqual => [.eq, .gt]

/-- A comparison accepts exactly its orders. -/
theorem Comparison.holds_iff_mem_orders (comparison : Comparison) (order : Ordering) :
    comparison.holds order = true ↔ order ∈ comparison.orders := by
  cases comparison <;> cases order <;> decide

/-- Texts have no order between them but equality exactly when they are one text. -/
theorem textOrder_eq_iff {left right : List Char} : textOrder left right = .eq ↔ left = right := by
  -- Texts are compared character by character, and a shorter one comes first.
  induction left generalizing right with
  | nil => cases right <;> simp [textOrder]
  | cons c left ih =>
    cases right with
    | nil => simp [textOrder]
    | cons d right =>
      rw [textOrder, Ordering.then_eq_eq, ih, List.cons.injEq]
      -- Characters are told apart by their code points.
      have points : compareOfLessAndEq c.toNat d.toNat = .eq ↔ c = d := by
        rw [compareOfLessAndEq_eq_eq Nat.le_refl Nat.not_le]
        exact Char.toNat_inj
      rw [points]

namespace Double

/-- Doubles that compare equal have the same order to every double. -/
theorem compare?_congr {left right : Double} (same : left.compare? right = some .eq)
    (other : Double) : other.compare? left = other.compare? right := by
  -- Both have a place on the line, and it is one place.
  have place : left.place? = right.place? := by
    unfold compare? at same
    cases below : left.place? with
    | none => simp [below] at same
    | some first =>
      cases above : right.place? with
      | none => simp [below, above] at same
      | some second =>
        simp only [below, above, Option.some.injEq] at same
        rw [Int.compare_eq_eq.mp same]
  unfold compare?
  -- A comparison looks at the places only.
  rw [place]

end Double

namespace Value

/-- Only null is the null value. -/
theorem isNull_iff {value : Value} : value.isNull = true ↔ value = .null := by
  cases value <;> simp [isNull]

/-- Every value but null is present. -/
theorem not_isNull_iff {value : Value} : (!value.isNull) = true ↔ value ≠ .null := by
  rw [Bool.not_eq_true', ← Bool.not_eq_true, isNull_iff]

/-- A test of the order of two values passes exactly when they have an order that passes it. -/
theorem comparesBy_iff {test : Ordering → Bool} {value other : Value} :
    value.comparesBy test other = true ↔
      ∃ order, value.compare? other = some order ∧ test order = true := by
  -- Values without an order pass no test.
  unfold comparesBy
  cases value.compare? other <;> simp

/-- Null has no order to any value. -/
theorem ne_null_of_compare?_eq_some {value other : Value} {order : Ordering}
    (ordered : value.compare? other = some order) : value ≠ .null := by
  -- Comparing null gives no order, so it is none of the values that have one.
  rintro rfl
  cases ordered

/-- Values that are equal as values have the same order to every value. -/
theorem compare?_congr_of_same {left right : Value} (same : left.same right = true)
    (value : Value) : value.compare? left = value.compare? right := by
  -- Only floats and offset date-times can be equal without being the same.
  unfold Value.same at same
  split at same
  · cases value <;> simp [compare?, Double.compare?_congr (of_decide_eq_true same)]
  · have instants := of_decide_eq_true same
    cases value <;> simp [compare?, OffsetDateTime.order, instants]
  · rw [of_decide_eq_true same]

/-- A comparison holds of two values exactly when they have one of its orders. -/
theorem comparesBy_holds_iff {comparison : Comparison} {value other : Value} :
    value.comparesBy comparison.holds other = true ↔ value.Compares comparison.orders other := by
  -- A comparison is a test that accepts exactly its own orders.
  rw [comparesBy_iff]
  constructor
  · intro held
    obtain ⟨order, ordered, accepted⟩ := held
    exact ⟨order, (comparison.holds_iff_mem_orders order).mp accepted, ordered⟩
  · intro compares
    obtain ⟨order, accepted, ordered⟩ := compares
    exact ⟨order, ordered, (comparison.holds_iff_mem_orders order).mpr accepted⟩

/-- A value is among others exactly when it compares equal to one of them. -/
theorem isAmong_iff {value : Value} {members : List Value} :
    value.isAmong members = true ↔ ∃ member ∈ members, value.compare? member = some .eq := by
  -- Being equal is one of the comparisons.
  simp [isAmong, comparesBy_holds_iff, Compares, Comparison.orders]

/-- A test of texts passes exactly on the texts that pass it. -/
theorem isTextThat_iff {test : String → Bool} {value : Value} :
    value.isTextThat test = true ↔ ∃ content, value = .text content ∧ test content = true := by
  -- Texts are the only values that a test of texts looks at.
  cases value <;> simp [isTextThat, text?]

/-- A text fails a test exactly if it does not pass it. -/
theorem isTextThat_not_of_text {value : Value} {content : String} (text : value = .text content)
    (test : String → Bool) :
    value.isTextThat (fun content => !test content) = !value.isTextThat test := by
  subst text
  rfl

/-- What is no text passes no test. -/
theorem isTextThat_of_not_text {value : Value} (other : ¬∃ content, value = .text content)
    (test : String → Bool) : value.isTextThat test = false := by
  -- Texts are the only values that are tested at all.
  cases value with
  | text content => exact absurd ⟨content, rfl⟩ other
  | null | bool | int | float | date | dateTime | offsetDateTime => rfl

/-- Nothing but the same truth value compares equal to a truth value. -/
theorem compare?_bool_iff {value : Value} {truth : Bool} :
    value.compare? (.bool truth) = some .eq ↔ value = .bool truth := by
  -- Truth values are the only ones with an order to truth values.
  cases value with
  | bool other => cases other <;> cases truth <;> decide
  | null | int | float | text | date | dateTime | offsetDateTime => simp [compare?]

/-- Nothing but a text has an order to a text. -/
theorem compare?_text_iff {value : Value} {content : String} {order : Ordering} :
    value.compare? (.text content) = some order ↔
      ∃ other, value = .text other ∧ textOrder other.toList content.toList = order := by
  -- Values of other variants have no order to a text.
  cases value <;> simp [compare?]

/-- A value compares equal to the empty text exactly when it is the empty text. -/
theorem compares_empty_iff {value : Value} :
    value.Compares [.eq] (.text "") ↔ value = .text "" := by
  -- Only the empty text has no order to the empty text but equality.
  simp only [Compares, List.mem_singleton, exists_eq_left, compare?_text_iff, textOrder_eq_iff,
    String.toList_inj, exists_eq_right]

/-- A value compares unequal to the empty text exactly when it is a text with characters. -/
theorem compares_nonempty_iff {value : Value} :
    value.Compares [.lt, .gt] (.text "") ↔
      ∃ content, value = .text content ∧ content ≠ "" := by
  -- Only texts have an order to the empty text at all.
  constructor
  · intro compares
    obtain ⟨order, listed, ordered⟩ := compares
    obtain ⟨content, rfl, compared⟩ := compare?_text_iff.mp ordered
    refine ⟨content, rfl, ?_⟩
    intro empty
    subst empty
    -- The empty text is equal to itself, which is no order listed.
    rw [textOrder_eq_iff.mpr rfl] at compared
    subst compared
    simp at listed
  · intro nonempty
    obtain ⟨content, rfl, filled⟩ := nonempty
    -- A text that is not empty differs from the empty one, so one of them comes first.
    have apart : textOrder content.toList "".toList ≠ .eq := by
      rw [Ne, textOrder_eq_iff, String.toList_inj]
      exact filled
    refine ⟨_, ?_, compare?_text_iff.mpr ⟨content, rfl, rfl⟩⟩
    cases compared : textOrder content.toList "".toList with
    | lt | gt => simp
    | eq => exact absurd compared apart

/-- An operand that converts has a property once converted exactly when its native value has. -/
theorem convertsTo_iff {raw native : Value} {kind : FieldKind} {property : Value → Prop}
    (converted : raw.coerce kind = .ok native) :
    raw.ConvertsTo kind property ↔ property native := by
  simp [ConvertsTo, converted]

end Value

/-- The pattern that an operation is given is the pattern of its operand's text. -/
theorem Config.likePattern_toList (config : Config) (value : Value) :
    (config.likePattern value).toList = config.patternOf value.write := by
  -- Wrapping adds one percent sign on either side of the rendered operand.
  unfold likePattern patternOf
  split <;> simp [Value.display]

namespace Predicate

/-- Predicates hold all together exactly when each of them does. -/
theorem allHold_iff {row : Row} {predicates : List Predicate} :
    allHold row predicates = true ↔ ∀ predicate ∈ predicates, predicate.holds row = true := by
  -- They all hold if the first one does and so do the others.
  induction predicates with
  | nil => simp [allHold]
  | cons predicate rest ih => simp [allHold, ih]

/-- Some predicate of a list holds exactly when there is one that does. -/
theorem anyHolds_iff {row : Row} {predicates : List Predicate} :
    anyHolds row predicates = true ↔ ∃ predicate ∈ predicates, predicate.holds row = true := by
  -- One of them holds if the first one does or one of the others.
  induction predicates with
  | nil => simp [anyHolds]
  | cons predicate rest ih => simp [anyHolds, ih]

end Predicate

end Criteria
