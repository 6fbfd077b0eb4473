import Criteria.Proofs.Compiler.Outcome
import Criteria.Proofs.Model.Path
import Criteria.Proofs.Predicate.Evaluation
import Criteria.Proofs.Registry
import Criteria.School
import Criteria.Search

/-! A compiled predicate holds of exactly the rows that satisfy the request. -/

namespace Criteria

/-- One operand is taken from exactly the lists of that operand alone. -/
theorem oneOperand_eq_ok_iff {operation : Operation} {operands : List Value} {value : Value} :
    oneOperand operation operands = .ok value ↔ operands = [value] := by
  -- There is no operand, one or more than one.
  rcases operands with _ | ⟨first, _ | ⟨second, rest⟩⟩ <;> simp [oneOperand]

/-- Two operands are taken from exactly the lists of those two alone. -/
theorem twoOperands_eq_ok_iff {operation : Operation} {operands : List Value}
    {low high : Value} :
    twoOperands operation operands = .ok (low, high) ↔ operands = [low, high] := by
  -- There is no operand, one, two or more than two.
  rcases operands with _ | ⟨first, _ | ⟨second, _ | ⟨third, rest⟩⟩⟩ <;> simp [twoOperands]

/-- One converted operand stands for one that was supplied. -/
theorem Entry.Prepares.one {entry : Entry} {kind : FieldKind} {raws operands : List Value}
    {operation : Operation} {native : Value} (coerces : entry.coerces = true)
    (prepared : entry.Prepares kind raws operands)
    (alone : oneOperand operation operands = .ok native) :
    ∃ raw, raws = [raw] ∧ raw.coerce kind = .ok native := by
  -- The list of native values has one member, so the supplied list has one too.
  rw [Prepares, if_pos coerces, oneOperand_eq_ok_iff.mp alone] at prepared
  rcases prepared with _ | ⟨becomes, none⟩
  cases none
  exact ⟨_, rfl, becomes⟩

/-- Two converted operands stand for two that were supplied. -/
theorem Entry.Prepares.two {entry : Entry} {kind : FieldKind} {raws operands : List Value}
    {operation : Operation} {low high : Value} (coerces : entry.coerces = true)
    (prepared : entry.Prepares kind raws operands)
    (both : twoOperands operation operands = .ok (low, high)) :
    ∃ below above, raws = [below, above] ∧
      below.coerce kind = .ok low ∧ above.coerce kind = .ok high := by
  -- The list of native values has two members, so the supplied list has two too.
  rw [Prepares, if_pos coerces, twoOperands_eq_ok_iff.mp both] at prepared
  rcases prepared with _ | ⟨becomes_low, _ | ⟨becomes_high, none⟩⟩
  cases none
  exact ⟨_, _, rfl, becomes_low, becomes_high⟩

/-- An operation that takes no operands is given none. -/
theorem Arity.eq_nil_of_accepts {raws : List Value}
    (counted : (Arity.exactly 0).accepts raws.length = true) : raws = [] :=
  List.eq_nil_of_length_eq_zero (by simpa [accepts] using counted)

namespace Predicate

variable {config : Config} {subject : Attribute} {raws operands : List Value}
  {predicate : Predicate}

/-- A comparison with one converted operand holds exactly of the values with one of its orders. -/
theorem buildComparison_holds_iff {operation : Operation} {comparison : Comparison} {entry : Entry}
    (coerces : entry.coerces = true) (prepared : entry.Prepares subject.kind raws operands)
    (built : Backend.predicates.buildComparison subject operation comparison operands =
      .ok predicate) (row : Row) :
    ∃ raw, raws = [raw] ∧ (predicate.holds row = true ↔
      raw.ConvertsTo subject.kind ((row subject.path).Compares comparison.orders)) := by
  -- The predicate compares with the native value of the one operand.
  obtain ⟨native, alone, same⟩ := bind_eq_ok_iff.mp built
  cases same
  obtain ⟨raw, rfl, becomes⟩ := prepared.one coerces alone
  refine ⟨raw, rfl, ?_⟩
  rw [Value.convertsTo_iff becomes]
  exact Value.comparesBy_holds_iff

/-- What the library's own layer builds for an operation holds exactly of the values that meet
the operation. -/
theorem build_holds_iff {operation : Operation}
    (counted : (Entry.standard operation).arity.accepts raws.length = true)
    (prepared : (Entry.standard operation).Prepares subject.kind raws operands)
    (built : Backend.predicates.build config operation subject operands = .ok predicate)
    (row : Row) :
    predicate.holds row = true ↔ operation.IsMet config subject.kind (row subject.path) raws := by
  -- Each operation has its own builder, and the number of operands is the one that it takes.
  cases operation with
  | equal | notEqual | lessThan | lessThanEqual | greaterThan | greaterThanEqual =>
    -- A comparison asks for one of the orders that it stands for.
    obtain ⟨raw, rfl, met⟩ := buildComparison_holds_iff rfl prepared built row
    exact met
  | between =>
    obtain ⟨⟨low, high⟩, both, same⟩ := bind_eq_ok_iff.mp built
    cases same
    obtain ⟨below, above, rfl, becomes_low, becomes_high⟩ := prepared.two rfl both
    simp only [Operation.IsMet, Value.convertsTo_iff becomes_low,
      Value.convertsTo_iff becomes_high]
    -- Both bounds are tested on the same value.
    exact (Bool.and_eq_true _ _).to_iff.trans
      (and_congr Value.comparesBy_holds_iff Value.comparesBy_holds_iff)
  | like =>
    obtain ⟨native, alone, same⟩ := bind_eq_ok_iff.mp built
    cases same
    obtain ⟨raw, rfl, becomes⟩ := prepared.one rfl alone
    -- A text is matched with the pattern, and nothing else is.
    simp only [Operation.IsMet, Value.convertsTo_iff becomes, ← Config.likePattern_toList,
      ← Like.isMatch_iff_matches]
    exact Value.isTextThat_iff
  | notLike =>
    obtain ⟨native, alone, same⟩ := bind_eq_ok_iff.mp built
    cases same
    obtain ⟨raw, rfl, becomes⟩ := prepared.one rfl alone
    -- The negation also asks for a text, and for one that is not matched.
    simp only [Operation.IsMet, Value.convertsTo_iff becomes, ← Config.likePattern_toList,
      ← Like.isMatch_iff_matches, ← Bool.not_eq_true', Bool.not_eq_true]
    exact Value.isTextThat_iff
  | isIn =>
    -- The members of a list are those that were supplied.
    have same : operands = raws := prepared
    subst same
    cases operands with
    | nil =>
      -- The empty list builds the predicate that never holds.
      cases built
      simp [Backend.predicates, holds, Operation.IsMet]
    | cons first rest =>
      cases built
      exact (Bool.and_eq_true _ _).to_iff.trans
        (and_congr Value.not_isNull_iff Value.isAmong_iff)
  | notIn =>
    have same : operands = raws := prepared
    subst same
    cases operands with
    | nil =>
      cases built
      simp [Backend.predicates, holds, Operation.IsMet]
    | cons first rest =>
      cases built
      -- What is not null has to be outside of the members.
      refine (Bool.and_eq_true _ _).to_iff.trans ?_
      rw [Value.not_isNull_iff, Bool.not_eq_true', ← Bool.not_eq_true, Value.isAmong_iff]
      simp [Operation.IsMet]
  -- A test for null has no operands, and asks only whether the value is there.
  | isNull =>
    cases built
    cases Arity.eq_nil_of_accepts counted
    exact Value.isNull_iff
  | isNotNull =>
    cases built
    cases Arity.eq_nil_of_accepts counted
    exact Value.not_isNull_iff
  | isTrue | isFalse =>
    cases built
    -- A truth value is compared with the one that is asked for.
    cases Arity.eq_nil_of_accepts counted
    refine Value.comparesBy_holds_iff.trans ?_
    simp [Value.Compares, Comparison.orders, Value.compare?_bool_iff, Operation.IsMet]
  | isEmptyString =>
    cases built
    -- Text is compared with the empty text.
    cases Arity.eq_nil_of_accepts counted
    exact Value.comparesBy_holds_iff.trans Value.compares_empty_iff
  -- Text that is not empty comes before the empty text or after it.
  | isNotEmptyString =>
    cases built
    cases Arity.eq_nil_of_accepts counted
    exact Value.comparesBy_holds_iff.trans Value.compares_nonempty_iff

end Predicate

section Trees

variable {α β : Type} {property : α → Prop} {image : β → Prop} {values : List α}
  {images : List β}

/-- What each value and its image have in common holds of all values exactly when of all
images. -/
theorem forall_mem_iff_of_forall₂
    (agree : List.Forall₂ (fun value mapped => image mapped ↔ property value) values images) :
    (∀ mapped ∈ images, image mapped) ↔ ∀ value ∈ values, property value := by
  -- The induction goes along both lists at once.
  induction agree with
  | nil => simp
  | cons first _ ih => simp [first, ih]

/-- What each value and its image have in common holds of some value exactly when of some
image. -/
theorem exists_mem_iff_of_forall₂
    (agree : List.Forall₂ (fun value mapped => image mapped ↔ property value) values images) :
    (∃ mapped ∈ images, image mapped) ↔ ∃ value ∈ values, property value := by
  -- The induction goes along both lists at once.
  induction agree with
  | nil => simp
  | cons first _ ih => simp [first, ih]

end Trees

/-- A query layer that combines predicates as groups demand of every row. -/
structure Backend.IsLogical {O : Type} (backend : Backend Predicate O) : Prop where
  always (row : Row) : backend.always.holds row = true
  and (children : List Predicate) (row : Row) :
    (backend.and children).holds row = true ↔ ∀ child ∈ children, child.holds row = true
  or (children : List Predicate) (row : Row) :
    (backend.or children).holds row = true ↔ ∃ child ∈ children, child.holds row = true
  not (child : Predicate) (row : Row) :
    (backend.not child).holds row = true ↔ ¬child.holds row = true

/-- The library's own layer combines predicates as groups demand. -/
theorem Backend.predicates_isLogical : predicates.IsLogical where
  always _ := rfl
  and _ _ := Predicate.allHold_iff
  or _ _ := Predicate.anyHolds_iff
  not child row := by simp [predicates, Predicate.holds]

namespace Compiler

variable (config : Config) (model : EntityModel) (row : Row)

/-- The predicate of a criterion holds exactly of the rows that satisfy the criterion. -/
theorem criterionOutcome_holds_iff {condition : Criterion} {predicate : Predicate}
    (compiled : (standard config).criterionOutcome model condition = .ok predicate) :
    predicate.holds row = true ↔ condition.IsSatisfied config model row := by
  -- Settling names the attribute, the entry and the operands that the predicate is built from.
  obtain ⟨⟨subject, entry, operands⟩, settled, built⟩ := bind_eq_ok_iff.mp compiled
  obtain ⟨resolved, registered, counted, -, prepared⟩ :=
    (settle_eq_ok_iff _ _).mp settled
  -- The standard registry holds the entry that builds the operation itself.
  cases (Registry.get_standard condition.operation).symm.trans registered
  simp only [Entry.builder_standard] at built
  have met := Predicate.build_holds_iff counted prepared built row
  rw [(model.resolve_eq_ok resolved).1] at met
  rw [met, Criterion.IsSatisfied]
  constructor
  · exact fun holds => ⟨subject, resolved, holds⟩
  · -- The path leads to one attribute only.
    intro satisfied
    obtain ⟨other, reached, holds⟩ := satisfied
    cases resolved.symm.trans reached
    exact holds

variable {config model row} in
/-- The predicate of a filter holds exactly as the criteria of the filter do, if predicates are
combined as the groups demand. -/
theorem outcomeAt_holds_iff {O : Type} {backend : Backend Predicate O} {registry : Registry Entry}
    {met : Criterion → Prop} (logical : backend.IsLogical) {filter : Filter} {depth : Nat}
    {predicate : Predicate}
    (criteria : ∀ condition ∈ filter.criteria, ∀ predicate,
      criterionOutcome ⟨backend, registry, config⟩ model condition = .ok predicate →
      (predicate.holds row = true ↔ met condition))
    (compiled : outcomeAt ⟨backend, registry, config⟩ model depth filter = .ok predicate) :
    predicate.holds row = true ↔ filter.Holds met := by
  -- The induction follows the tree, with the depth left open for the children.
  induction filter generalizing depth predicate with
  | criterion condition =>
    -- A criterion has its own predicate, which is known.
    have alone := ((outcomeAt_criterion_eq_ok_iff _ _).mp compiled).2
    rw [criteria condition (Filter.mem_criteria_self condition) predicate alone, Filter.Holds]
  | group combinator children ih =>
    obtain ⟨-, admitted, images, each, combined⟩ := (outcomeAt_group_eq_ok_iff _ _).mp compiled
    -- Every child agrees with the image in its place.
    have agree : List.Forall₂ (fun child image => image.holds row = true ↔ child.Holds met)
        children images := by
      refine forall₂_imp_of_mem each fun child member image child_compiled => ?_
      refine ih child member (fun condition within => criteria condition ?_) child_compiled
      exact Filter.mem_criteria_of_child member within
    cases combinator with
    | and =>
      cases combined
      rw [Filter.Holds]
      -- A conjunction holds if all images do, and so if all children do.
      exact (logical.and images row).trans (forall_mem_iff_of_forall₂ agree)
    | or =>
      cases combined
      rw [Filter.Holds]
      simp only [exists_prop]
      -- A disjunction holds if some image does, and so if some child does.
      exact (logical.or images row).trans (exists_mem_iff_of_forall₂ agree)
    | not =>
      -- A negation has exactly one child, whose image is the last one.
      obtain ⟨child, rfl⟩ := List.length_eq_one_iff.mp admitted
      obtain ⟨image, others, same, none, rfl⟩ := List.forall₂_cons_left_iff.mp agree
      cases none
      cases combined
      rw [Filter.Holds]
      refine (logical.not image row).trans ?_
      simp [same]

variable {config model row} in
/-- The predicate of a request holds exactly as the criteria of the request do, if predicates are
combined as the groups demand. -/
theorem compile_holds_iff {O : Type} {backend : Backend Predicate O} {registry : Registry Entry}
    {met : Criterion → Prop} (logical : backend.IsLogical) {request : SearchRequest}
    {query : Query Predicate O}
    (criteria : ∀ condition ∈ request.criteria, ∀ predicate,
      criterionOutcome ⟨backend, registry, config⟩ model condition = .ok predicate →
      (predicate.holds row = true ↔ met condition))
    (compiled : compile ⟨backend, registry, config⟩ model request = .ok query) :
    query.predicate.holds row = true ↔ request.Holds met := by
  -- The sort keys have no part in the predicate.
  rcases request with ⟨filter, sort⟩
  cases filter with
  | none =>
    -- Without a filter, every row is kept.
    have always := ((compile_none_eq_ok_iff _ _).mp compiled).1
    simp [SearchRequest.Holds, always, logical.always]
  | some filter =>
    -- With one, the predicate is that of the filter.
    have made := ((compile_some_eq_ok_iff _ _).mp compiled).1
    simp [SearchRequest.Holds, outcomeAt_holds_iff logical criteria made]

/-- A compiled predicate holds of exactly the rows that satisfy the request: of every row if there
is no filter, and else of those whose values meet the operations of the filter's criteria as its
groups demand. -/
theorem compile_holds_iff_isSatisfied {request : SearchRequest} {query : RowQuery}
    (compiled : (standard config).compile model request = .ok query) :
    query.predicate.holds row = true ↔ request.IsSatisfied config model row :=
  -- Predicates are combined as their logic says, and the criteria mean what they should.
  compile_holds_iff Backend.predicates_isLogical
    (fun _ _ _ made => criterionOutcome_holds_iff config model row made) compiled

/-- A search for the students with a name of three letters, the last an a, outside one class and
with a grade between two bounds given as text. -/
def shortNames : SearchRequest :=
  ⟨some (.group .and
    [ .group .not [.criterion ⟨"firstName", .notLike, [.text "__a"]⟩],
      .criterion ⟨"community.className", .notIn, [.text "Class 10B", .int 3]⟩,
      .criterion ⟨"gpa", .between, [.text "3.2", .int 4]⟩ ]), [⟨"gpa", .descending⟩]⟩

/-- The first student is among those whom the search for short names asks for. -/
theorem compile_holds_iff_isSatisfied_shortNames :
    ∃ query, (standard ⟨3, false⟩).compile School.student shortNames = .ok query ∧
      ∃ record ∈ School.students,
        shortNames.IsSatisfied ⟨3, false⟩ School.student record.row := by
  -- The predicate is evaluated on the row of the first student.
  refine ⟨_, rfl, _, List.mem_cons_self, ?_⟩
  exact (compile_holds_iff_isSatisfied _ _ _ rfl).mp (by decide +kernel)

end Compiler

end Criteria
