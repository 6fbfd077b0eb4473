import Criteria.Config
import Criteria.Filter.Tree
import Criteria.Predicate.Evaluation
import Criteria.Proofs.Filter.Tree
import Criteria.Proofs.Predicate.Like
import Criteria.Value.Coercion

/-! What a search request asks of a row, told from its filter tree alone. -/

namespace Criteria

/-- The order of two values is defined and one of those listed. -/
def Value.Compares (value : Value) (orders : List Ordering) (other : Value) : Prop :=
  ∃ order ∈ orders, value.compare? other = some order

/-- An operand converts to a native value of a kind, and that value has a property. -/
def Value.ConvertsTo (raw : Value) (kind : FieldKind) (property : Value → Prop) : Prop :=
  ∃ native, raw.coerce kind = .ok native ∧ property native

/-- The wildcard pattern made of an operand's text, which may stand anywhere if patterns are
wrapped. -/
def Config.patternOf (config : Config) (text : List Char) : List Char :=
  if config.wrapLikePattern then ['%'] ++ text ++ ['%'] else text

/--
Whether the value of an attribute of some kind meets an operation with its operands.

Only the members of a list are taken as they were supplied, and a number of operands that the
operation does not take is never met.
-/
def Operation.IsMet (config : Config) (kind : FieldKind) (value : Value) :
    Operation → List Value → Prop
  | .equal, [raw] => raw.ConvertsTo kind (value.Compares [.eq])
  | .notEqual, [raw] => raw.ConvertsTo kind (value.Compares [.lt, .gt])
  | .lessThan, [raw] => raw.ConvertsTo kind (value.Compares [.lt])
  | .lessThanEqual, [raw] => raw.ConvertsTo kind (value.Compares [.lt, .eq])
  | .greaterThan, [raw] => raw.ConvertsTo kind (value.Compares [.gt])
  | .greaterThanEqual, [raw] => raw.ConvertsTo kind (value.Compares [.eq, .gt])
  | .between, [low, high] =>
    low.ConvertsTo kind (value.Compares [.eq, .gt]) ∧
      high.ConvertsTo kind (value.Compares [.lt, .eq])
  | .like, [raw] => raw.ConvertsTo kind fun native => ∃ content, value = .text content ∧
      Like.Matches (config.patternOf native.write) content.toList
  | .notLike, [raw] => raw.ConvertsTo kind fun native => ∃ content, value = .text content ∧
      ¬Like.Matches (config.patternOf native.write) content.toList
  | .isIn, members => value ≠ .null ∧ ∃ member ∈ members, value.compare? member = some .eq
  -- Nothing is a member of the empty list, not even null.
  | .notIn, members =>
    members = [] ∨ value ≠ .null ∧ ∀ member ∈ members, value.compare? member ≠ some .eq
  | .isNull, [] => value = .null
  | .isNotNull, [] => value ≠ .null
  | .isTrue, [] => value = .bool true
  | .isFalse, [] => value = .bool false
  | .isEmptyString, [] => value = .text ""
  | .isNotEmptyString, [] => ∃ content, value = .text content ∧ content ≠ ""
  | _, _ => False

/-- A row satisfies a criterion if the value at its path, which must lead somewhere, meets the
operation. -/
def Criterion.IsSatisfied (config : Config) (model : EntityModel) (row : Row)
    (condition : Criterion) : Prop :=
  ∃ subject, model.resolve condition.field = .ok subject ∧
    condition.operation.IsMet config subject.kind (row (AttributePath.ofText condition.field))
      condition.operands

/-- A filter holds if its criteria do as its groups demand: every child of a conjunction, some child
of a disjunction and no child of a negation. -/
def Filter.Holds (met : Criterion → Prop) : Filter → Prop
  | .criterion condition => met condition
  | .group .and children => ∀ (child : Filter) (_ : child ∈ children), child.Holds met
  | .group .or children => ∃ (child : Filter) (_ : child ∈ children), child.Holds met
  | .group .not children => ∀ (child : Filter) (_ : child ∈ children), ¬child.Holds met

/-- A request without a filter always holds. -/
def SearchRequest.Holds (met : Criterion → Prop) (request : SearchRequest) : Prop :=
  ∀ filter, request.filter = some filter → filter.Holds met

/-- A row satisfies a request if the request holds with the criteria that the row satisfies. -/
def SearchRequest.IsSatisfied (config : Config) (model : EntityModel) (row : Row)
    (request : SearchRequest) : Prop :=
  request.Holds fun condition => condition.IsSatisfied config model row

/-- Whether a filter holds depends on its own criteria only. -/
theorem Filter.holds_congr {met met' : Criterion → Prop} {filter : Filter}
    (same : ∀ condition ∈ filter.criteria, met condition ↔ met' condition) :
    filter.Holds met ↔ filter.Holds met' := by
  -- The induction follows the tree, whose leaves are the criteria.
  induction filter with
  | criterion condition =>
    rw [Holds, Holds]
    exact same condition (mem_criteria_self condition)
  | group combinator children ih =>
    -- A criterion of a child is one of the whole group.
    have each (child : Filter) (member : child ∈ children) : child.Holds met ↔ child.Holds met' :=
      ih child member fun condition within => same condition (mem_criteria_of_child member within)
    cases combinator with
    -- Each of the three groups asks its children in its own way.
    | and =>
      rw [Holds, Holds]
      exact forall₂_congr each
    | or =>
      rw [Holds, Holds]
      exact exists₂_congr each
    | not =>
      rw [Holds, Holds]
      exact forall₂_congr fun child member => not_congr (each child member)

/-- Whether a request holds depends on its own criteria only. -/
theorem SearchRequest.holds_congr {met met' : Criterion → Prop} {request : SearchRequest}
    (same : ∀ condition ∈ request.criteria, met condition ↔ met' condition) :
    request.Holds met ↔ request.Holds met' := by
  -- The criteria of the request are those of its filter.
  refine forall₂_congr fun filter present => Filter.holds_congr fun condition within => ?_
  apply same condition
  simpa [criteria, present] using within

end Criteria
