import Criteria.Proofs.Compiler.Outcome
import Criteria.Proofs.Model.Path

/-! Compilers for two query layers that agree on every request, step by step. -/

namespace Criteria

variable {P O Q T : Type}

/-- Two query layers combine related predicates to related ones. -/
structure Backend.Combines (related : P → Q → Prop) (left : Backend P O) (right : Backend Q T) :
    Prop where
  always : related left.always right.always
  and {children : List P} {images : List Q} (each : List.Forall₂ related children images) :
    related (left.and children) (right.and images)
  or {children : List P} {images : List Q} (each : List.Forall₂ related children images) :
    related (left.or children) (right.or images)
  not {child : P} {image : Q} (same : related child image) :
    related (left.not child) (right.not image)

/-- What an operation asks of a query layer, apart from the attribute that it is applied to. -/
inductive Primitive where
  | always
  | never
  | compare (comparison : Comparison) (value : Value)
  | between (low high : Value)
  | like (pattern : String)
  | notLike (pattern : String)
  | isNull
  | isNotNull
  | inList (values : List Value)
  | notInList (values : List Value)

/-- The predicate of a query layer for a primitive on an attribute. -/
def Primitive.apply (backend : Backend P O) (subject : Attribute) : Primitive → P
  | always => backend.always
  | never => backend.never
  | compare comparison value => backend.compare subject comparison value
  | between low high => backend.between subject low high
  | like pattern => backend.like subject pattern
  | notLike pattern => backend.notLike subject pattern
  | isNull => backend.isNull subject
  | isNotNull => backend.isNotNull subject
  | inList values => backend.inList subject values
  | notInList values => backend.notInList subject values

/-- The one primitive that an operation asks for with its operands. -/
def Operation.primitive (config : Config) (operands : List Value) (operation : Operation) :
    Except Rejection Primitive :=
  match operation with
  | .equal => (oneOperand .equal operands).map (.compare .equal)
  | .notEqual => (oneOperand .notEqual operands).map (.compare .notEqual)
  | .lessThan => (oneOperand .lessThan operands).map (.compare .less)
  | .lessThanEqual => (oneOperand .lessThanEqual operands).map (.compare .lessEqual)
  | .greaterThan => (oneOperand .greaterThan operands).map (.compare .greater)
  | .greaterThanEqual => (oneOperand .greaterThanEqual operands).map (.compare .greaterEqual)
  | .between => (twoOperands .between operands).map fun bounds => .between bounds.1 bounds.2
  | .like => (oneOperand .like operands).map fun value => .like (config.likePattern value)
  | .notLike => (oneOperand .notLike operands).map fun value => .notLike (config.likePattern value)
  | .isIn => .ok (if operands.isEmpty then .never else .inList operands)
  | .notIn => .ok (if operands.isEmpty then .always else .notInList operands)
  | .isNull => .ok .isNull
  | .isNotNull => .ok .isNotNull
  | .isTrue => .ok (.compare .equal (.bool true))
  | .isFalse => .ok (.compare .equal (.bool false))
  | .isEmptyString => .ok (.compare .equal (.text ""))
  | .isNotEmptyString => .ok (.compare .notEqual (.text ""))

/-- Every query layer builds what it has for the primitive of the operation. -/
theorem Backend.build_eq_map_primitive (backend : Backend P O) (config : Config)
    (operation : Operation) (subject : Attribute) (operands : List Value) :
    backend.build config operation subject operands =
      (operation.primitive config operands).map (Primitive.apply backend subject) := by
  -- Lists of no, one, two and more operands are told apart.
  cases operation with
  | equal | notEqual | lessThan | lessThanEqual | greaterThan | greaterThanEqual | like | notLike =>
    rcases operands with _ | ⟨first, _ | ⟨second, rest⟩⟩ <;> rfl
  | between => rcases operands with _ | ⟨first, _ | ⟨second, _ | ⟨third, rest⟩⟩⟩ <;> rfl
  | isIn | notIn => cases operands <;> rfl
  | isNull | isNotNull | isTrue | isFalse | isEmptyString | isNotEmptyString => rfl

namespace Compiler

variable {related : P → Q → Prop} {terms : O → T → Prop} {left : Backend P O} {right : Backend Q T}
  {registry : Registry Entry} {config : Config} {model : EntityModel}

/-- Combining related predicates gives related ones. -/
theorem combine_agree (combines : left.Combines related right) (combinator : Combinator)
    {children : List P} {images : List Q} (each : List.Forall₂ related children images) :
    Agree related (combine ⟨left, registry, config⟩ combinator children)
      (combine ⟨right, registry, config⟩ combinator images) := by
  -- Conjunctions and disjunctions take all predicates, and a negation takes the last one.
  cases combinator with
  | and => exact .succeeded (combines.and each)
  | or => exact .succeeded (combines.or each)
  | not =>
    -- The last predicate on either side is the first from the end.
    have backwards := List.rel_reverse each
    unfold combine
    rw [List.getLast?_eq_head?_reverse, List.getLast?_eq_head?_reverse]
    generalize children.reverse = first, images.reverse = second at backwards
    cases backwards with
    -- Without any predicate, both sides fail in the same way.
    | nil => exact .failed _
    | cons last _ => exact .succeeded (combines.not last)

/-- Compilers that agree on the criteria of a filter agree on the filter. -/
theorem outcomeAt_agree (combines : left.Combines related right) {filter : Filter} {depth : Nat}
    (criteria : ∀ condition ∈ filter.criteria, Agree related
      (criterionOutcome ⟨left, registry, config⟩ model condition)
      (criterionOutcome ⟨right, registry, config⟩ model condition)) :
    Agree related (outcomeAt ⟨left, registry, config⟩ model depth filter)
      (outcomeAt ⟨right, registry, config⟩ model depth filter) := by
  -- Neither the depth check nor the validation of a group involves the query layer.
  induction filter generalizing depth with
  | criterion condition =>
    rw [outcomeAt, outcomeAt]
    -- Past the depth check, only the criterion itself is left.
    refine Agree.after _ fun _ _ => ?_
    exact criteria condition (Filter.mem_criteria_self condition)
  | group combinator children ih =>
    rw [outcomeAt, outcomeAt]
    refine Agree.after _ fun _ _ => Agree.after _ fun _ _ => ?_
    -- A criterion of a child is one of the whole group.
    have each (child : Filter) (member : child ∈ children) :
        Agree related (outcomeAt ⟨left, registry, config⟩ model (depth + 1) child)
          (outcomeAt ⟨right, registry, config⟩ model (depth + 1) child) :=
      ih child member fun condition within =>
        criteria condition (Filter.mem_criteria_of_child member within)
    -- The children come first, in order, and then what they are combined into.
    rw [outcomesAt_eq_mapM, outcomesAt_eq_mapM]
    exact (Agree.mapM each).bind fun _ _ alike => combine_agree combines combinator alike

/-- Compilers agree on a criterion if they have related predicates for the primitive that it asks
for on the attribute that its path leads to. -/
theorem criterionOutcome_agree {condition : Criterion}
    (primitives : ∀ subject entry operands primitive,
      settle ⟨left, registry, config⟩ model condition = .ok (subject, entry, operands) →
      entry.builder.primitive config operands = .ok primitive →
      related (primitive.apply left subject) (primitive.apply right subject)) :
    Agree related (criterionOutcome ⟨left, registry, config⟩ model condition)
      (criterionOutcome ⟨right, registry, config⟩ model condition) := by
  -- Settling a criterion does not involve the query layer.
  have same : settle ⟨right, registry, config⟩ model condition =
      settle ⟨left, registry, config⟩ model condition := rfl
  unfold criterionOutcome
  rw [same]
  refine Agree.after _ fun ⟨subject, entry, operands⟩ settled => ?_
  simp only [Backend.build_eq_map_primitive]
  cases asked : entry.builder.primitive config operands with
  -- What the operation refuses, it refuses on both sides.
  | error rejection => exact .failed rejection
  | ok primitive => exact .succeeded (primitives _ _ _ _ settled asked)

/-- Sort keys are compiled to related terms if the query layers have them for each attribute. -/
theorem compileSort_agree
    (order : ∀ text subject direction, model.resolve text = .ok subject →
      terms (left.order subject direction) (right.order subject direction))
    (sort : List SortKey) :
    Agree (List.Forall₂ terms) (compileSort left model sort) (compileSort right model sort) := by
  -- Resolving the path of a sort key does not involve the query layer either.
  rw [compileSort_eq_mapM, compileSort_eq_mapM]
  refine Agree.mapM fun key _ => Agree.after _ fun subject resolved => .succeeded ?_
  exact order _ _ _ (mapError_eq_ok_iff.mp resolved)

/-- Compilers that agree on the criteria of a request and on sort terms agree on the request. -/
theorem compile_agree (combines : left.Combines related right) {request : SearchRequest}
    (criteria : ∀ condition ∈ request.criteria, Agree related
      (criterionOutcome ⟨left, registry, config⟩ model condition)
      (criterionOutcome ⟨right, registry, config⟩ model condition))
    (order : ∀ text subject direction, model.resolve text = .ok subject →
      terms (left.order subject direction) (right.order subject direction)) :
    Agree (fun query image => related query.predicate image.predicate ∧
        List.Forall₂ terms query.order image.order)
      (compile ⟨left, registry, config⟩ model request)
      (compile ⟨right, registry, config⟩ model request) := by
  rcases request with ⟨filter, sort⟩
  -- The sort terms are compiled in one way for all related predicates.
  have sorted {predicate : P} {image : Q} (same : related predicate image) :
      Agree (fun query image => related query.predicate image.predicate ∧
          List.Forall₂ terms query.order image.order)
        (compileSort left model sort >>= fun order => .ok (⟨predicate, order⟩ : Query P O))
        (compileSort right model sort >>= fun order => .ok (⟨image, order⟩ : Query Q T)) :=
    (compileSort_agree order sort).bind fun _ _ alike => .succeeded ⟨same, alike⟩
  rw [compile_eq_outcome, compile_eq_outcome, outcome, outcome]
  cases filter with
  -- Without a filter, each side keeps every row.
  | none => exact sorted combines.always
  | some filter =>
    exact (outcomeAt_agree combines criteria).bind fun _ _ same => sorted same

end Compiler

end Criteria
