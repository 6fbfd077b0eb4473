import Criteria.Proofs.Predicate.Selection
import Criteria.Proofs.Value.Transitivity

/-! Sort terms contradict themselves on rows only where the values that one of them finds clash. -/

namespace Criteria

namespace Sorting

variable {α : Type} {order next : α → α → Ordering} {elements : List α}

/-- An order without contradictions on some elements is lawful on these alone. -/
theorem Ranks.transCmp (ranks : Ranks order elements) :
    Std.TransCmp fun left right : { element // element ∈ elements } => order left right where
  -- The elements are restricted to those that the order is known on.
  eq_swap := fun {left right} => ranks.swap _ right.2 _ left.2
  isLE_trans := fun {left middle right} first second =>
    Ordering.isLE_iff_ne_gt.mpr (ranks.trans _ left.2 _ middle.2 _ right.2
      (Ordering.isLE_iff_ne_gt.mp first) (Ordering.isLE_iff_ne_gt.mp second))

/-- An order that is lawful on some elements alone has no contradictions on them. -/
theorem Ranks.of_transCmp
    (lawful : Std.TransCmp fun left right : { element // element ∈ elements } => order left right) :
    Ranks order elements where
  -- What holds of the restricted elements holds of the elements themselves.
  swap left leftMember right rightMember :=
    lawful.eq_swap (a := ⟨right, rightMember⟩) (b := ⟨left, leftMember⟩)
  trans left leftMember middle middleMember right rightMember first second :=
    Ordering.isLE_iff_ne_gt.mp (lawful.isLE_trans (a := ⟨left, leftMember⟩)
      (b := ⟨middle, middleMember⟩) (c := ⟨right, rightMember⟩)
      (Ordering.isLE_iff_ne_gt.mpr first) (Ordering.isLE_iff_ne_gt.mpr second))

/-- An order that leaves ties to another one has no contradictions if both have none. -/
theorem Ranks.then (first : Ranks order elements) (second : Ranks next elements) :
    Ranks (fun left right => (order left right).then (next left right)) elements := by
  -- On the elements alone both are lawful, and so is going from one to the other.
  have major := first.transCmp
  have minor := second.transCmp
  exact .of_transCmp (inferInstanceAs (Std.TransCmp (compareLex _ _)))

end Sorting

namespace Value

/-- A value upsets two others, the first above the second: it is not null, and it has no order to
them or is the float nearest to both. -/
def Upsets (other high low : Value) : Prop :=
  high.compare? low = some .gt ∧ other ≠ .null ∧
    (other.compare? low = none ∨ other.Merges high low)

/-- Among some values there is one that upsets two others. -/
def Clash (values : List Value) : Prop :=
  ∃ other ∈ values, ∃ high ∈ values, ∃ low ∈ values, other.Upsets high low

variable {high low other left right : Value}

/-- The order of two values for sorting turns round with them. -/
theorem sortOrder_swap (left right : Value) : right.sortOrder left = (left.sortOrder right).swap := by
  -- Null comes first from either side, and other values are compared.
  by_cases leftNull : left = .null
  · subst leftNull
    cases right <;> rfl
  by_cases rightNull : right = .null
  · subst rightNull
    cases left <;> rfl
  rw [sortOrder_of_present leftNull rightNull, sortOrder_of_present rightNull leftNull,
    compare?_swap left right]
  cases left.compare? right <;> rfl

/-- Null is never sorted above a value. -/
theorem sortOrder_null_left (value : Value) : Value.null.sortOrder value ≠ .gt := by
  cases value <;> nofun

/-- Every value but null is sorted above null. -/
theorem sortOrder_null_right (present : left ≠ .null) : left.sortOrder .null = .gt := by
  -- Null comes before whatever is not null.
  cases left <;> first | rfl | exact absurd rfl present

/-- A value that is not null is not sorted above another exactly when it has no order to it or is at
most that one. -/
theorem sortOrder_ne_gt_iff (leftPresent : left ≠ .null) (rightPresent : right ≠ .null) :
    left.sortOrder right ≠ .gt ↔ left.compare? right = none ∨ left.IsAtMost right := by
  -- Without an order, values count as level.
  rw [sortOrder_of_present leftPresent rightPresent]
  unfold IsAtMost
  cases left.compare? right <;> simp

/-- Values that have no order are not comparable. -/
theorem not_isComparable_iff : ¬left.IsComparable right ↔ left.compare? right = none := by
  unfold IsComparable
  cases left.compare? right <;> simp

/-- A value upsets two others exactly when it is sorted between them although they descend. -/
theorem upsets_iff : other.Upsets high low ↔
    high.sortOrder other ≠ .gt ∧ other.sortOrder low ≠ .gt ∧ high.sortOrder low = .gt := by
  -- Values are sorted by their order, and are level where they have none.
  constructor
  · rintro ⟨descends, otherPresent, cause⟩
    have comparable : high.IsComparable low := ⟨.gt, descends⟩
    have highPresent := ne_null_of_compare?_eq_some descends
    have lowPresent : low ≠ .null := by
      obtain ⟨order, turned⟩ := comparable.symm
      exact ne_null_of_compare?_eq_some turned
    rw [sortOrder_ne_gt_iff highPresent otherPresent, sortOrder_ne_gt_iff otherPresent lowPresent,
      sortOrder_of_present highPresent lowPresent, descends]
    rcases cause with apart | merges
    · -- Without an order to the lower value, there is none to the higher one either.
      refine ⟨.inl (not_isComparable_iff.mp fun found => ?_), .inl apart, rfl⟩
      exact not_isComparable_iff.mpr apart (found.symm.trans comparable)
    · -- A merging float is level with both integers.
      obtain ⟨highNear, lowNear, -⟩ := merges.compare?
      exact ⟨.inr ⟨.eq, highNear, nofun⟩, .inr ⟨.eq, compare?_eq_symm lowNear, nofun⟩, rfl⟩
  · rintro ⟨first, second, descends⟩
    -- Null is sorted below every other value, so none of the three is null.
    have highPresent : high ≠ .null := by
      rintro rfl
      exact sortOrder_null_left low descends
    have otherPresent : other ≠ .null := by
      rintro rfl
      exact first (sortOrder_null_right highPresent)
    have lowPresent : low ≠ .null := by
      rintro rfl
      exact second (sortOrder_null_right otherPresent)
    rw [sortOrder_ne_gt_iff highPresent otherPresent] at first
    rw [sortOrder_ne_gt_iff otherPresent lowPresent] at second
    have ordered : high.compare? low = some .gt := by
      rw [sortOrder_of_present highPresent lowPresent] at descends
      cases found : high.compare? low <;> simp_all
    refine ⟨ordered, otherPresent, ?_⟩
    rcases second with apart | second
    · exact .inl apart
    have comparable : high.IsComparable other :=
      IsComparable.trans ⟨.gt, ordered⟩ second.isComparable.symm
    have first := first.resolve_left fun apart => not_isComparable_iff.mpr apart comparable
    -- The values ascend by way of the one between, and yet descend.
    by_contra unmerged
    obtain ⟨order, same, ascends⟩ :=
      (first.trans_iff second).mpr fun merges => unmerged (.inr merges.1)
    cases ordered.symm.trans same
    exact ascends rfl

end Value

namespace SortTerm

variable {term : SortTerm} {terms : List SortTerm} {rows : List Row}

/-- The order of two rows by one term turns round with them. -/
theorem order_swap (term : SortTerm) (left right : Row) :
    term.order right left = (term.order left right).swap := by
  -- A descending term turns the order round on both sides.
  unfold order
  cases term.direction with
  | ascending => exact Value.sortOrder_swap _ _
  | descending => exact congrArg Ordering.swap (Value.sortOrder_swap _ _)

/-- The order of two rows turns round with them. -/
theorem orderBy_swap (terms : List SortTerm) (left right : Row) :
    orderBy right left terms = (orderBy left right terms).swap := by
  -- Each term that ties leaves the rows to the next, from either side.
  induction terms with
  | nil => rfl
  | cons term rest ih => rw [orderBy, orderBy, Ordering.swap_then, ← ih, ← order_swap]

/-- A row is level with itself. -/
theorem orderBy_self (terms : List SortTerm) (row : Row) : orderBy row row terms = .eq := by
  -- An order that turns round into itself is the one of ties.
  have turned := orderBy_swap terms row row
  cases placed : orderBy row row terms with
  | eq => rfl
  | lt | gt =>
    rw [placed] at turned
    cases turned

/-- The order of rows by some terms chains. -/
def ChainsOn (terms : List SortTerm) (rows : List Row) : Prop :=
  ∀ a ∈ rows, ∀ b ∈ rows, ∀ c ∈ rows,
    orderBy a b terms ≠ .gt → orderBy b c terms ≠ .gt → orderBy a c terms ≠ .gt

/-- One term chains on rows exactly when the values that it finds do not clash. -/
theorem chainsOn_singleton_iff :
    ChainsOn [term] rows ↔ ¬Value.Clash (rows.map fun row => row term.path) := by
  -- A value that upsets two others is where the chain of three rows breaks.
  have clash : Value.Clash (rows.map fun row => row term.path) ↔
      ∃ other ∈ rows, ∃ high ∈ rows, ∃ low ∈ rows,
        (other term.path).Upsets (high term.path) (low term.path) := by simp [Value.Clash]
  rw [clash]
  simp only [ChainsOn, orderBy, Ordering.then_eq, Value.upsets_iff]
  obtain ⟨path, direction⟩ := term
  cases direction with
  -- The chain goes from the high value by way of the other one to the low one.
  | ascending =>
    constructor
    · rintro chains ⟨other, between, high, first, low, last, above, below, descends⟩
      exact chains high first other between low last above below descends
    · intro apart a first b between c last above below descends
      exact apart ⟨b, between, a, first, c, last, above, below, descends⟩
  | descending =>
    -- A descending term orders rows as an ascending one does the other way round.
    simp only [order, ← Value.sortOrder_swap]
    constructor
    · rintro chains ⟨other, between, high, last, low, first, below, above, descends⟩
      exact chains low first other between high last above below descends
    · intro apart a first b between c last above below descends
      exact apart ⟨b, between, c, last, a, first, below, above, descends⟩

/-- Terms order rows without contradictions if none of them finds values that clash. -/
theorem ranks_of_not_clash
    (apart : ∀ term ∈ terms, ¬Value.Clash (rows.map fun row => row term.path)) :
    Sorting.Ranks (fun left right => orderBy left right terms) rows := by
  -- Each term leaves its ties to the terms after it.
  induction terms with
  | nil => exact ⟨fun _ _ _ _ => rfl, fun _ _ _ _ _ _ _ _ => nofun⟩
  | cons term rest ih =>
    obtain ⟨first, others⟩ := List.forall_mem_cons.mp apart
    have major : Sorting.Ranks (fun left right => orderBy left right [term]) rows :=
      ⟨fun _ _ _ _ => orderBy_swap _ _ _, chainsOn_singleton_iff.mpr first⟩
    simp only [orderBy, Ordering.then_eq] at major
    exact major.then (ih others)

/-- A row is level with itself and the order of two rows turns round with them, whatever they hold.

The order chains on rows if none of the terms finds values that clash, and by a single term only
then: two values that have an order are upset by every other one that has no order to them, except
by null, and two different integers by a float that is the nearest to both. -/
theorem orderBy_chains_unless_clash (terms : List SortTerm) (rows : List Row) :
    (∀ row, orderBy row row terms = .eq) ∧
    (∀ left right, orderBy right left terms = (orderBy left right terms).swap) ∧
    ((∀ term ∈ terms, ¬Value.Clash (rows.map fun row => row term.path)) →
      ChainsOn terms rows) ∧
    ∀ term, ChainsOn [term] rows ↔ ¬Value.Clash (rows.map fun row => row term.path) :=
  -- One term contradicts itself only where values clash, and several terms do no worse.
  ⟨orderBy_self terms, orderBy_swap terms, fun apart => (ranks_of_not_clash apart).trans,
    fun _ => chainsOn_singleton_iff⟩

/-- A row with a grade and a name. -/
def graded (grade : Value) (name : String) : Row := fun path =>
  if path = ⟨["gpa"]⟩ then grade else .text name

/-- By grade first, the best one first, and then by name. -/
def byGrade : List SortTerm := [⟨⟨["gpa"]⟩, .descending⟩, ⟨⟨["firstName"]⟩, .ascending⟩]

/-- Rows with grades that are integers, floats and null. -/
def mixedGrades : List Row :=
  [graded .null "Ann", graded (.int 3) "Bo", graded (.float (.ofInt 3)) "Al",
    graded (.float (.ofInt 2)) "Cy", graded (.int 4) "Di"]

/-- Integers and floats under one key do not clash as long as no float stands for two of them. -/
theorem orderBy_chains_unless_clash_mixedGrades :
    (∀ term ∈ byGrade, ¬Value.Clash (mixedGrades.map fun row => row term.path)) ∧
      ChainsOn byGrade mixedGrades := by
  -- Each term chains on the rows, which is decided, and so nothing clashes.
  have apart : ∀ term ∈ byGrade, ¬Value.Clash (mixedGrades.map fun row => row term.path) := by
    intro term member
    rw [← chainsOn_singleton_iff]
    revert term
    unfold ChainsOn
    decide +kernel
  exact ⟨apart, (orderBy_chains_unless_clash byGrade mixedGrades).2.2.1 apart⟩

/-- A grade that is not a number is level with the grades one and zero, which are not level. -/
theorem not_chainsOn_undefinedGrade :
    ¬ChainsOn byGrade
      [graded (.float (.ofInt 0)) "Ann", graded (.float .nan) "Ann",
        graded (.float (.ofInt 1)) "Ann"] := by
  -- Three rows are enough to be tried in every order.
  unfold ChainsOn
  decide +kernel

end SortTerm

/-- A query sorts the records that it keeps, however many there are, if none of its terms finds values
in them that clash. -/
theorem Query.select?_of_not_clash {α : Type} {query : RowQuery} {row : α → Row} {records : List α}
    (apart : ∀ term ∈ query.order, ¬Value.Clash
      ((records.filter fun candidate => query.predicate.holds (row candidate)).map
        fun record => row record term.path)) :
    query.select? row records = some ((query.arranged row records).map records.get) := by
  -- The records are sorted if the terms do not contradict themselves on them.
  apply IsConsistent.select?_eq
  have rows : ∀ term ∈ query.order, ¬Value.Clash
      (((records.filter fun candidate => query.predicate.holds (row candidate)).map row).map
        fun row => row term.path) := by
    simpa only [List.map_map, Function.comp_def] using apart
  have ranks := SortTerm.ranks_of_not_clash rows
  -- What holds of the rows holds of the records that they are the rows of.
  exact ⟨fun _ left _ right => ranks.swap _ (List.mem_map_of_mem left) _ (List.mem_map_of_mem right),
    fun _ left _ middle _ right => ranks.trans _ (List.mem_map_of_mem left) _
      (List.mem_map_of_mem middle) _ (List.mem_map_of_mem right)⟩

end Criteria
