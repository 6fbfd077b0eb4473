import Criteria.Proofs.Compiler.Outcome
import Criteria.School

/-! A greater depth limit and a larger registry change no answer that a compiler already gives. -/

namespace Criteria

/-- Whether a rejection may be lifted by allowing more depth or by registering an operation. -/
def Rejection.IsLiftable (rejection : Rejection) : Prop :=
  rejection.kind = .maxDepthExceeded ∨ rejection.kind = .invalidOperation

/-- The entries that a registry holds for some operations are those that another one holds. -/
def Registry.KeepsEntries (registry larger : Registry Entry) (operations : List Operation) : Prop :=
  ∀ operation ∈ operations, ∀ entry,
    registry.entry? operation = some entry → larger.entry? operation = some entry

/-- Looking up an operation gives the entry that is kept, unless there was none before. -/
theorem Registry.KeepsEntries.get_agree {registry larger : Registry Entry} {operations : List Operation}
    (keeps : registry.KeepsEntries larger operations) {operation : Operation}
    (asked : operation ∈ operations) :
    AgreeUnless Rejection.IsLiftable (registry.get operation) (larger.get operation) := by
  -- An entry that is found is kept.
  unfold get
  cases found : registry.entry? operation with
  -- A missing operation is refused as such, and another registry may have it.
  | none => exact .fault (.inr rfl) _
  | some entry =>
    rw [keeps operation asked entry found]
    exact .same _

variable {P O : Type}

/-- A builder looks at the settings only to see whether patterns are wrapped. -/
theorem Backend.build_eq_of_wrapLikePattern_eq (backend : Backend P O) {config other : Config}
    (wrapping : other.wrapLikePattern = config.wrapLikePattern) (operation : Operation)
    (subject : Attribute) (operands : List Value) :
    backend.build other operation subject operands =
      backend.build config operation subject operands := by
  -- Only the two operations with a pattern look at the settings at all.
  have pattern (value : Value) : other.likePattern value = config.likePattern value := by
    rw [Config.likePattern, Config.likePattern, wrapping]
  cases operation with
  | like | notLike => simp only [build, pattern]
  | equal | notEqual | lessThan | lessThanEqual | greaterThan | greaterThanEqual | between
    | isIn | notIn | isNull | isNotNull | isTrue | isFalse | isEmptyString
    | isNotEmptyString => rfl

namespace Compiler

variable {backend : Backend P O} {registry larger : Registry Entry} {config looser : Config}
  {model : EntityModel}

/-- A node that stands high enough does so under a greater limit too. -/
theorem checkDepth_agree (deeper : config.maxDepth ≤ looser.maxDepth) (depth : Nat) :
    AgreeUnless Rejection.IsLiftable (checkDepth ⟨backend, registry, config⟩ depth)
      (checkDepth ⟨backend, larger, looser⟩ depth) := by
  -- A node that is too deep for the smaller limit is refused for its depth.
  unfold checkDepth
  by_cases tooDeep : config.maxDepth < depth
  · rw [if_pos tooDeep]
    exact .fault (.inl rfl) _
  · -- What the smaller limit allows, the greater one allows as well.
    have allowed : ¬looser.maxDepth < depth := by omega
    rw [if_neg tooDeep, if_neg allowed]
    exact .same _

/-- A criterion is settled as before if the registry keeps the entry of its operation. -/
theorem settle_agree {condition : Criterion}
    (keeps : registry.KeepsEntries larger [condition.operation]) :
    AgreeUnless Rejection.IsLiftable (settle ⟨backend, registry, config⟩ model condition)
      (settle ⟨backend, larger, looser⟩ model condition) := by
  -- Settling goes on from the path to the entry of the operation.
  unfold settle
  -- The path is resolved in the model, and all later checks are those of the entry.
  refine AgreeUnless.bind (.same _) fun subject => ?_
  exact (keeps.get_agree (List.mem_singleton_self _)).bind fun entry => .same _

/-- A criterion has the predicate that it had, if the registry keeps the entry of its operation. -/
theorem criterionOutcome_agreeUnless (wrapping : looser.wrapLikePattern = config.wrapLikePattern)
    {condition : Criterion} (keeps : registry.KeepsEntries larger [condition.operation]) :
    AgreeUnless Rejection.IsLiftable
      (criterionOutcome ⟨backend, registry, config⟩ model condition)
      (criterionOutcome ⟨backend, larger, looser⟩ model condition) := by
  -- What is settled is built with the same operands, and patterns are wrapped as before.
  unfold criterionOutcome
  refine (settle_agree keeps).bind fun settled => ?_
  rcases settled with ⟨subject, entry, operands⟩
  show AgreeUnless _ (backend.build config entry.builder subject operands)
    (backend.build looser entry.builder subject operands)
  rw [backend.build_eq_of_wrapLikePattern_eq wrapping]
  exact .same _

/-- A filter has the predicate that it had, if the registry keeps the entries of its operations. -/
theorem outcomeAt_agreeUnless (wrapping : looser.wrapLikePattern = config.wrapLikePattern)
    (deeper : config.maxDepth ≤ looser.maxDepth) {filter : Filter} (depth : Nat)
    (keeps : registry.KeepsEntries larger (filter.criteria.map Criterion.operation)) :
    AgreeUnless Rejection.IsLiftable
      (outcomeAt ⟨backend, registry, config⟩ model depth filter)
      (outcomeAt ⟨backend, larger, looser⟩ model depth filter) := by
  -- The induction follows the tree; at each node, the two runs take the same steps in turn.
  induction filter generalizing depth with
  | criterion condition =>
    rw [outcomeAt, outcomeAt]
    refine (checkDepth_agree deeper depth).bind fun _ => ?_
    exact criterionOutcome_agreeUnless wrapping keeps
  | group combinator children ih =>
    rw [outcomeAt, outcomeAt, outcomesAt_eq_mapM, outcomesAt_eq_mapM]
    refine (checkDepth_agree deeper depth).bind fun _ => ?_
    -- Validating a group and combining its images involve neither the limit nor the registry.
    refine AgreeUnless.bind (.same _) fun _ => ?_
    refine AgreeUnless.bind (AgreeUnless.mapM ?_) fun images => ?_
    · intro child member
      refine ih child member (depth + 1) fun operation asked => keeps operation ?_
      -- An operation that a child asks for is one that the group asks for.
      obtain ⟨condition, within, same⟩ := List.mem_map.mp asked
      exact List.mem_map.mpr ⟨condition, Filter.mem_criteria_of_child member within, same⟩
    · exact .same _

/-- Compiling with a greater limit and a registry that keeps the entries of the operations asked
for gives the same result, be it a query or a rejection, unless that was a rejection for depth or
for an unknown operation. -/
theorem compile_eq_of_looser (model : EntityModel) (request : SearchRequest)
    (wrapping : looser.wrapLikePattern = config.wrapLikePattern)
    (deeper : config.maxDepth ≤ looser.maxDepth)
    (keeps : registry.KeepsEntries larger (request.criteria.map Criterion.operation))
    (final : ∀ rejection, compile ⟨backend, registry, config⟩ model request = .error rejection →
      rejection.kind ≠ .maxDepthExceeded ∧ rejection.kind ≠ .invalidOperation) :
    compile ⟨backend, larger, looser⟩ model request =
      compile ⟨backend, registry, config⟩ model request := by
  -- The two runs agree unless the first one ends in a rejection that may be lifted.
  have agree : AgreeUnless Rejection.IsLiftable
      (compile ⟨backend, registry, config⟩ model request)
      (compile ⟨backend, larger, looser⟩ model request) := by
    rw [compile_eq_outcome, compile_eq_outcome, outcome, outcome]
    rcases request with ⟨filter, sort⟩
    -- The sort keys are compiled after the filter, with the model alone.
    cases filter with
    | none => exact .same _
    | some filter =>
      exact (outcomeAt_agreeUnless wrapping deeper 1 keeps).bind fun _ => .same _
  refine agree.eq fun rejection refused liftable => ?_
  obtain ⟨notDeep, notUnknown⟩ := final rejection refused
  exact liftable.elim notDeep notUnknown

/-- A registry of equality on texts, patterns under another name, and nothing else. -/
def fewOperations : Registry Entry :=
  (Registry.empty.register .equal ⟨.exactly 1, .text, true, .equal⟩).register .notEqual
    ⟨.atLeast 1, .any, true, .like⟩

/-- A search whose second criterion has too many operands for its builder, and which goes on with an
operation and a depth that may not be allowed. -/
def overloaded : SearchRequest :=
  ⟨some (.group .and
    [ .criterion ⟨"gpaLetter", .equal, [.text "A"]⟩,
      .criterion ⟨"gpaLetter", .notEqual, [.text "A", .text "B"]⟩,
      .group .not [.group .not [.criterion ⟨"gpa", .lessThan, [.int 3]⟩]] ]),
    [⟨"age", .ascending⟩]⟩

/-- The search with too many operands is refused for them by a registry of few operations two levels
deep, and so it is with all other operations and any depth. -/
theorem compile_eq_of_looser_overloaded :
    compile ⟨Backend.predicates, fewOperations, ⟨2, true⟩⟩ School.student overloaded =
        .error (.invalidOperandCount .like [.text "A", .text "B"] (.exactly 1)) ∧
      compile ⟨Backend.predicates, fewOperations.register .lessThan (.standard .lessThan),
          ⟨64, true⟩⟩ School.student overloaded =
        .error (.invalidOperandCount .like [.text "A", .text "B"] (.exactly 1)) := by
  -- The search is refused at its second criterion, for which nothing is changed.
  refine ⟨rfl, ?_⟩
  have keeps : fewOperations.KeepsEntries
      (fewOperations.register .lessThan (.standard .lessThan))
      (overloaded.criteria.map Criterion.operation) := by
    intro operation asked entry found
    have among : operation ∈ [Operation.equal, .notEqual, .lessThan] := asked
    simp only [List.mem_cons, List.not_mem_nil, or_false] at among
    rcases among with rfl | rfl | rfl
    · exact found
    · exact found
    -- The operation that is added had no entry before.
    · cases found
  refine (compile_eq_of_looser School.student overloaded rfl (by decide) keeps ?_).trans rfl
  intro rejection refused
  cases refused
  exact ⟨RejectionKind.noConfusion, RejectionKind.noConfusion⟩

end Compiler

end Criteria
