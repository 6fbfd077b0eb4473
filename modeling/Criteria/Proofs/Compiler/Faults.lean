import Criteria.Proofs.Compiler.Outcome
import Criteria.Proofs.Model.Path
import Criteria.Proofs.Registry
import Criteria.School

/-! Every fault of a request in the order in which it is looked for, of which compiling reports the
first. -/

namespace Criteria

/-- What is wrong with an operand that has no native value of a kind. -/
def Value.fault? (kind : FieldKind) (raw : Value) : Option Rejection :=
  match raw.coerce kind with
  | .ok _ => none
  | .error _ => some (.invalidFieldValue raw.display kind.typeName)

/-- What is wrong with a criterion on an attribute of some kind: first the kind, and then each
operand, from left to right, unless the operands are the members of a list. -/
def Criterion.kindFaults (condition : Criterion) (kind : FieldKind) : List Rejection :=
  (if (Entry.standard condition.operation).requirement.admits kind then []
    else [.incompatibleOperation condition.operation condition.field kind.typeName]) ++
  (if condition.operation = .isIn ∨ condition.operation = .notIn then []
    else condition.operands.filterMap (Value.fault? kind))

/-- What is wrong with the operands of a criterion: first their number, and then what is wrong on
the kind that its path leads to, if any. -/
def Criterion.operandFaults (model : EntityModel) (condition : Criterion) : List Rejection :=
  let arity := (Entry.standard condition.operation).arity
  (if arity.accepts condition.operands.length then []
    else [.invalidOperandCount condition.operation condition.operands arity]) ++
  ((model.kindOf? condition.field).map condition.kindFaults).getD []

/-- What is wrong with a criterion: first its path, and then its operation or else the operands. -/
def Criterion.faults (registry : Registry Entry) (model : EntityModel) (condition : Criterion) :
    List Rejection :=
  ((model.missing? condition.field).map Rejection.ofResolveError).toList ++
  (if registry.contains condition.operation then condition.operandFaults model
    else [.invalidOperation condition.operation.name])

/-- What is wrong with a number of children under a combinator. -/
def Combinator.faults (combinator : Combinator) (count : Nat) : List Rejection :=
  (if count = 0 then [.emptyConditions combinator] else []) ++
  (if combinator.Admits count then [] else [.invalidConditionsCount combinator])

/-- What is wrong with a node of a filter by itself, apart from where it stands. -/
def Filter.ownFaults (registry : Registry Entry) (model : EntityModel) : Filter → List Rejection
  | .criterion condition => condition.faults registry model
  | .group combinator children => combinator.faults children.length

/-- What is wrong with a sort key, which is reported with its whole path. -/
def SortKey.fault? (model : EntityModel) (key : SortKey) : Option Rejection :=
  (model.missing? key.field).map fun _ => .invalidSortingField key.field

/-- A path is resolved, or its first missing segment is reported. -/
theorem EntityModel.resolve_reports (model : EntityModel) (text : String)
    (translate : ResolveError → Rejection) :
    Reports ((model.resolve text).mapError translate)
      ((model.missing? text).map translate).toList := by
  -- Resolving either reaches the end of the path or stops at its first missing segment.
  cases resolved : model.resolve text with
  | ok subject =>
    rw [(model.resolve_eq_ok resolved).2.2]
    rfl
  | error error =>
    rw [(model.resolve_eq_error resolved).2]
    rfl

/-- An operand is converted, or reported with the kind that it has no value of. -/
theorem Value.coerce_reports (raw : Value) (kind : FieldKind) :
    Reports ((raw.coerce kind).mapError Rejection.ofCoercionError) (raw.fault? kind).toList := by
  -- An operand that is converted has no fault.
  unfold fault?
  cases converted : raw.coerce kind with
  | ok native => rfl
  | error error =>
    -- The only error names the operand and the kind.
    have named : error = ⟨raw.display, kind.typeName⟩ := by
      unfold coerce at converted
      split at converted
      · split at converted
        · cases converted
        · exact (Except.error.inj converted).symm
      · cases converted
    subst named
    rfl

/-- Operands are converted, or those that have no native value are reported. -/
theorem coerceAll_reports (kind : FieldKind) (operands : List Value) :
    Reports (coerceAll kind operands) (operands.filterMap (Value.fault? kind)) := by
  -- The operands are converted one after the other.
  rw [coerceAll_eq_mapM, List.filterMap_eq_flatMap_toList]
  exact Reports.mapM fun raw _ => raw.coerce_reports kind

/-- The builder of a standard entry always gives a predicate for as many operands as the entry
takes. -/
theorem Backend.exists_build_eq_ok {P O : Type} (backend : Backend P O) (config : Config)
    (operation : Operation) (subject : Attribute) {operands : List Value}
    (counted : (Entry.standard operation).arity.accepts operands.length = true) :
    ∃ predicate, backend.build config (Entry.standard operation).builder subject operands =
      .ok predicate := by
  -- A builder looks only at the number of its operands, which the entry fixes.
  cases operation with
  | equal | notEqual | lessThan | lessThanEqual | greaterThan | greaterThanEqual | like | notLike =>
    obtain ⟨value, rfl⟩ := List.length_eq_one_iff.mp (of_decide_eq_true counted)
    exact ⟨_, rfl⟩
  | between =>
    obtain ⟨low, high, rfl⟩ := List.length_eq_two.mp (of_decide_eq_true counted)
    exact ⟨_, rfl⟩
  | isIn | notIn | isNull | isNotNull | isTrue | isFalse | isEmptyString | isNotEmptyString =>
    exact ⟨_, rfl⟩

namespace Compiler

variable {P O : Type} (compiler : Compiler P O) (model : EntityModel)

/-- What is wrong with a node that stands at some depth: first the depth, and then the node. -/
def nodeFaults (node : Nat × Filter) : List Rejection :=
  (if compiler.config.maxDepth < node.1 then [.maxDepthExceeded compiler.config.maxDepth]
    else []) ++
  node.2.ownFaults compiler.registry model

/-- Everything that is wrong with a request: the nodes of its filter in preorder, and then its
sort keys. -/
def faults (request : SearchRequest) : List Rejection :=
  ((request.filter.map (Filter.preorder 1)).getD []).flatMap (compiler.nodeFaults model) ++
  request.sort.filterMap (SortKey.fault? model)

variable {compiler} {model}

/-- The depth check reports a node that stands too deep. -/
theorem checkDepth_reports (depth : Nat) :
    Reports (compiler.checkDepth depth)
      (if compiler.config.maxDepth < depth then [.maxDepthExceeded compiler.config.maxDepth]
        else []) := by
  -- The check and its report ask the same question.
  unfold checkDepth
  split <;> rfl

/-- Validating a group reports a number of children that its combinator does not admit. -/
theorem validate_reports (combinator : Combinator) (children : List Filter) :
    Reports (Group.validate ⟨combinator, children⟩) (combinator.faults children.length) := by
  -- No child, one child and two or more are told apart.
  rcases children with _ | ⟨first, _ | ⟨second, rest⟩⟩ <;> cases combinator <;>
    simp [Group.validate, Combinator.faults, Combinator.Admits, Reports]

/-- Settling a criterion reports what is wrong with it. -/
theorem settle_reports (only : compiler.registry.OnlyStandard) (condition : Criterion) :
    Reports (compiler.settle model condition) (condition.faults compiler.registry model) := by
  -- The path is resolved first, and its kind is what the other faults are about.
  unfold settle Criterion.faults
  refine (model.resolve_reports _ _).bind fun subject resolved => ?_
  have kind_reached := (model.resolve_eq_ok (mapError_eq_ok_iff.mp resolved)).2.1
  cases present : compiler.registry.contains condition.operation with
  -- An operation that is not registered is refused before its operands are looked at.
  | false =>
    rw [Registry.get_eq_error_of_not_contains present]
    rfl
  -- A registered one has its standard entry.
  | true =>
    obtain ⟨entry, registered⟩ := Registry.exists_get_eq_ok_of_contains present
    have standard := only _ _ registered
    subst standard
    rw [registered, if_pos rfl]
    unfold Criterion.operandFaults Criterion.kindFaults
    rw [kind_reached]
    -- The number of operands is tested first, and the kind of the attribute next.
    refine Reports.test _ _ fun _ => ?_
    refine Reports.test _ _ fun _ => ?_
    -- Only the operands of a list are not converted.
    by_cases list : condition.operation = .isIn ∨ condition.operation = .notIn
    · rw [if_neg fun coerces => (Entry.coerces_standard _).mp coerces list, if_pos list]
      rfl
    · rw [if_pos ((Entry.coerces_standard _).mpr list), if_neg list]
      exact (coerceAll_reports subject.kind condition.operands).bind_of_exists_ok
        fun _ _ => ⟨_, rfl⟩

/-- Compiling a criterion reports what is wrong with it. -/
theorem criterionOutcome_reports (only : compiler.registry.OnlyStandard) (condition : Criterion) :
    Reports (compiler.criterionOutcome model condition)
      (condition.faults compiler.registry model) := by
  -- Building comes after settling, and never fails then.
  refine (settle_reports only condition).bind_of_exists_ok ?_
  intro ⟨subject, entry, operands⟩ settled
  obtain ⟨-, registered, counted, -, prepared⟩ := (settle_eq_ok_iff _ _).mp settled
  have standard := only _ _ registered
  subst standard
  -- What was settled has the number of operands that its builder needs.
  rw [← prepared.length_eq] at counted
  exact compiler.backend.exists_build_eq_ok compiler.config condition.operation subject counted

/-- Combining the predicates of an admitted number of children never fails. -/
theorem exists_combine_eq_ok {combinator : Combinator} {images : List P}
    (admitted : combinator.Admits images.length) :
    ∃ predicate, compiler.combine combinator images = .ok predicate := by
  -- Only a negation could fail, and it is given one predicate.
  cases combinator with
  | and | or => exact ⟨_, rfl⟩
  | not =>
    obtain ⟨image, rfl⟩ := List.length_eq_one_iff.mp admitted
    exact ⟨_, rfl⟩

/-- Compiling a filter reports the faults of its nodes in preorder. -/
theorem outcomeAt_reports (only : compiler.registry.OnlyStandard) (filter : Filter)
    (depth : Nat) : Reports (compiler.outcomeAt model depth filter)
      ((filter.preorder depth).flatMap (compiler.nodeFaults model)) := by
  -- A node is checked before its children, and these are compiled from left to right.
  induction filter generalizing depth with
  | criterion condition =>
    rw [outcomeAt, Filter.preorder, List.flatMap_singleton]
    exact (checkDepth_reports depth).bind fun _ _ => criterionOutcome_reports only condition
  | group combinator children ih =>
    rw [outcomeAt, Filter.preorder, List.flatMap_cons, nodeFaults, List.append_assoc]
    refine (checkDepth_reports depth).bind fun _ _ => ?_
    refine (validate_reports combinator children).bind fun _ valid => ?_
    rw [Filter.preorders_eq_flatMap, List.flatMap_assoc, outcomesAt_eq_mapM]
    have children_report := Reports.mapM fun child member => ih child member (depth + 1)
    refine children_report.bind_of_exists_ok fun images each => ?_
    -- There is an image for each child, so the combinator admits the images too.
    have admitted := Group.validate_eq_ok_iff.mp valid
    rw [(mapM_eq_ok_iff.mp each).length_eq] at admitted
    exact exists_combine_eq_ok admitted

/-- Compiling sort keys reports those whose paths lead nowhere. -/
theorem compileSort_reports (backend : Backend P O) (sort : List SortKey) :
    Reports (compileSort backend model sort) (sort.filterMap (SortKey.fault? model)) := by
  -- The sort keys are resolved one after the other.
  rw [compileSort_eq_mapM, List.filterMap_eq_flatMap_toList]
  refine Reports.mapM fun key _ => ?_
  exact (model.resolve_reports _ _).bind_of_exists_ok fun _ _ => ⟨_, rfl⟩

/-- Compiling a request reports its faults. -/
theorem compile_reports (only : compiler.registry.OnlyStandard) (request : SearchRequest) :
    Reports (compiler.compile model request) (compiler.faults model request) := by
  -- Whatever the predicate is, the faults of the sort keys are all that can follow.
  have sorted (predicate : P) : Reports (do
      let order ← compileSort compiler.backend model request.sort
      Except.ok (⟨predicate, order⟩ : Query P O)) (request.sort.filterMap (SortKey.fault? model)) :=
    (compileSort_reports compiler.backend request.sort).bind_of_exists_ok fun _ _ => ⟨_, rfl⟩
  rw [compile_eq_outcome, outcome, faults]
  cases request.filter with
  | none => exact sorted compiler.backend.always
  | some filter => exact (outcomeAt_reports only filter 1).bind fun predicate _ => sorted predicate

variable (model) in
/-- Compiling a request fails exactly with the first fault of the request, and succeeds exactly if
the request has none. -/
theorem compile_finds_first_fault (only : compiler.registry.OnlyStandard)
    (request : SearchRequest) :
    (∀ rejection, compiler.compile model request = .error rejection ↔
      (compiler.faults model request).head? = some rejection) ∧
    ((∃ query, compiler.compile model request = .ok query) ↔
      compiler.faults model request = []) := by
  -- A result that reports a list of faults fails with the first of them.
  have reports : Reports (compiler.compile model request) (compiler.faults model request) :=
    compile_reports only request
  exact ⟨reports.eq_error_iff, reports.exists_ok_iff⟩

/-- A search with something wrong at every node but the root, and with a wrong sort key. -/
def mistaken : SearchRequest :=
  ⟨some (.group .and
    [ .group .not [.criterion ⟨"firstName", .like, []⟩],
      .group .or [],
      .criterion ⟨"community.level", .between, [.text "low"]⟩,
      .criterion ⟨"gpa", .between, [.text "low", .null]⟩ ]), [⟨"age", .ascending⟩]⟩

/-- With one operation taken away, the first of several faults is that this one is not known. -/
theorem compile_finds_first_fault_mistaken :
    (Registry.standard.without .like).OnlyStandard ∧
      Compiler.compile ⟨.predicates, Registry.standard.without .like, ⟨3, true⟩⟩ School.student
        mistaken = .error (.invalidOperation "LIKE") := by
  -- The first fault is at the criterion whose operation was taken away.
  have only : (Registry.standard.without .like).OnlyStandard :=
    Registry.onlyStandard_standard.without .like
  refine ⟨only, ?_⟩
  exact ((compile_finds_first_fault School.student only mistaken).1 _).mpr rfl

end Compiler

end Criteria
