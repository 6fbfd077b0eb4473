import Criteria.Proofs.Compiler.Agreement
import Criteria.Proofs.Compiler.Meaning

/-! How far the predicates that the library's own layer has for three negations differ from plain
negations. -/

namespace Criteria

/-- The query layer with the last three primitives as they are unless a layer replaces them. -/
def Backend.byDefault {P O : Type} (backend : Backend P O) : Backend P O where
  always := backend.always
  never := backend.never
  compare := backend.compare
  between := backend.between
  like := backend.like
  isNull := backend.isNull
  inList := backend.inList
  and := backend.and
  or := backend.or
  not := backend.not
  order := backend.order

/-- Whether a value is one that an operation, if it is the negation of another, is meant for: a text
for a pattern, and anything but null for the members of a list. -/
def Operation.IsDefinite (value : Value) (operands : List Value) : Operation → Prop
  | .notLike => ∃ content, value = .text content
  | .notIn => operands = [] ∨ value ≠ .null
  | _ => True

/-- Whether the value of a row at the path of a criterion is one that the operation is meant for. -/
def Criterion.IsDefinite (row : Row) (condition : Criterion) : Prop :=
  condition.operation.IsDefinite (row (AttributePath.ofText condition.field)) condition.operands

namespace Primitive

variable {config : Config} {operation : Operation} {operands : List Value} {primitive : Primitive}
  {subject : Attribute} {row : Row}

/-- On a value that the operation is meant for, the default predicate holds exactly if the other
does. -/
theorem holds_byDefault_of_isDefinite
    (asked : operation.primitive config operands = .ok primitive)
    (definite : operation.IsDefinite (row subject.path) operands) :
    (primitive.apply Backend.predicates.byDefault subject).holds row =
      (primitive.apply Backend.predicates subject).holds row := by
  -- Only the three negations have another predicate by default.
  cases operation with
  | equal | notEqual | lessThan | lessThanEqual | greaterThan | greaterThanEqual | between | like =>
    -- The primitive is not among the three that differ.
    obtain ⟨taken, -, same⟩ := map_eq_ok_iff.mp asked
    subst same
    rfl
  | notLike =>
    obtain ⟨raw, -, same⟩ := map_eq_ok_iff.mp asked
    subst same
    -- Of a text, a pattern that is not matched is the negation of one that is.
    obtain ⟨content, text⟩ := definite
    exact (Value.isTextThat_not_of_text text _).symm
  | isIn =>
    cases asked
    cases operands <;> rfl
  | notIn =>
    cases asked
    cases operands with
    | nil => rfl
    | cons first rest =>
      -- A value that is not null is either among the members or not.
      have present : (row subject.path).isNull = false := by
        have meant := definite.resolve_left (List.cons_ne_nil first rest)
        simpa [← Value.isNull_iff] using meant
      simp [Primitive.apply, Backend.predicates, Backend.byDefault, Predicate.holds, present]
  | isNull | isNotNull | isTrue | isFalse | isEmptyString | isNotEmptyString =>
    cases asked
    rfl

/-- On any other value, the default predicate holds. -/
theorem holds_byDefault_of_not_isDefinite
    (asked : operation.primitive config operands = .ok primitive)
    (indefinite : ¬operation.IsDefinite (row subject.path) operands) :
    (primitive.apply Backend.predicates.byDefault subject).holds row = true := by
  -- Only the negations of a pattern and of a list have values that they are not meant for.
  cases operation with
  | equal | notEqual | lessThan | lessThanEqual | greaterThan | greaterThanEqual | between | like
    | isIn | isNull | isNotNull | isTrue | isFalse | isEmptyString | isNotEmptyString =>
    exact absurd trivial indefinite
  | notLike =>
    obtain ⟨raw, -, same⟩ := map_eq_ok_iff.mp asked
    subst same
    -- What is no text matches no pattern, which a plain negation takes for not matching it.
    exact (Bool.not_eq_true' _).mpr (Value.isTextThat_of_not_text indefinite _)
  | notIn =>
    cases asked
    cases operands with
    | nil => exact absurd (.inl rfl) indefinite
    | cons first rest =>
      -- Null is among no members, which a plain negation takes for being outside of them.
      have absent : row subject.path = .null := by
        by_contra present
        exact indefinite (.inr present)
      simp [Primitive.apply, Backend.predicates, Backend.byDefault, Predicate.holds, absent,
        Value.isNull]

end Primitive

/-- With the three defaults, predicates are still combined as groups demand. -/
theorem Backend.byDefault_isLogical {O : Type} {backend : Backend Predicate O}
    (logical : backend.IsLogical) : backend.byDefault.IsLogical :=
  -- The combinations are taken over from the backend as they are.
  ⟨logical.always, logical.and, logical.or, logical.not⟩

namespace Compiler

variable {config : Config} {model : EntityModel}

/-- With the defaults, the predicate of a criterion is one for the same primitive as without. -/
theorem criterionOutcome_byDefault_agree (condition : Criterion) :
    Agree (fun plain predicate => ∀ row,
        (condition.IsDefinite row → plain.holds row = predicate.holds row) ∧
        (¬condition.IsDefinite row → plain.holds row = true))
      (criterionOutcome ⟨Backend.predicates.byDefault, .standard, config⟩ model condition)
      (criterionOutcome ⟨Backend.predicates, .standard, config⟩ model condition) := by
  -- A criterion is settled in one way, so both layers are asked for the same primitive.
  refine criterionOutcome_agree ?_
  intro subject entry operands primitive settled asked row
  obtain ⟨resolved, registered, -, -, prepared⟩ := (settle_eq_ok_iff _ _).mp settled
  -- Every entry is standard, so the builder is that of the operation.
  have standard := Registry.onlyStandard_standard _ _ registered
  subst standard
  rw [Entry.builder_standard] at asked
  -- The value is the one at the path of the attribute, and a list's members are as supplied.
  have same : condition.IsDefinite row ↔
      condition.operation.IsDefinite (row subject.path) operands := by
    rw [Criterion.IsDefinite, (model.resolve_eq_ok resolved).1]
    cases listed : condition.operation with
    | notIn =>
      rw [listed] at prepared
      have supplied : operands = condition.operands := prepared
      rw [supplied]
    | _ => rfl
  rw [same]
  exact ⟨Primitive.holds_byDefault_of_isDefinite asked,
    Primitive.holds_byDefault_of_not_isDefinite asked⟩

/-- With the defaults, the predicate of a criterion holds exactly of the rows that satisfy the
criterion and of those with a value that its operation is not meant for. -/
theorem criterionOutcome_byDefault_holds_iff {row : Row} {condition : Criterion}
    {plain : Predicate}
    (compiled : criterionOutcome ⟨Backend.predicates.byDefault, .standard, config⟩ model condition =
      .ok plain) :
    plain.holds row = true ↔
      condition.IsSatisfied config model row ∨ ¬condition.IsDefinite row := by
  -- The two predicates are compared first, and the meaning of the other one is known.
  obtain ⟨predicate, made, same⟩ :=
    (criterionOutcome_byDefault_agree condition).exists_of_ok compiled
  by_cases definite : condition.IsDefinite row
  · -- On a value that the operation is meant for, the two predicates agree.
    rw [(same row).1 definite, criterionOutcome_holds_iff config model row made]
    simp [definite]
  · -- On any other value, the default one holds.
    simp [definite, (same row).2 definite]

/-- What compiles also compiles with the defaults of the three negations, to the same sort terms.
The two queries keep the same rows among those with a value at each criterion that its operation is
meant for. With the defaults, a criterion counts as satisfied on any other value too. -/
theorem compile_byDefault_holds {request : SearchRequest} {query : RowQuery}
    (compiled : (standard config).compile model request = .ok query) :
    ∃ plain, compile ⟨Backend.predicates.byDefault, .standard, config⟩ model request = .ok plain ∧
      plain.order = query.order ∧
      (∀ row, (∀ condition ∈ request.criteria, condition.IsDefinite row) →
        plain.predicate.holds row = query.predicate.holds row) ∧
      ∀ row, plain.predicate.holds row = true ↔ request.Holds fun condition =>
        condition.IsSatisfied config model row ∨ ¬condition.IsDefinite row := by
  -- Both compilations succeed together, whatever the predicates are.
  have agree : Agree (fun query plain => True ∧ List.Forall₂ Eq query.order plain.order)
      (compile ⟨Backend.predicates, .standard, config⟩ model request)
      (compile ⟨Backend.predicates.byDefault, .standard, config⟩ model request) := by
    have combines : Backend.Combines (fun _ _ => True) Backend.predicates
        Backend.predicates.byDefault :=
      ⟨trivial, fun _ => trivial, fun _ => trivial, fun _ => trivial⟩
    refine compile_agree combines ?_ fun _ _ _ _ => rfl
    intro condition _
    exact criterionOutcome_agree fun _ _ _ _ _ _ => trivial
  obtain ⟨plain, compiled_plain, -, order⟩ := agree.exists_of_ok compiled
  have exact_rows (row : Row) : plain.predicate.holds row = true ↔ request.Holds fun condition =>
      condition.IsSatisfied config model row ∨ ¬condition.IsDefinite row :=
    compile_holds_iff (Backend.byDefault_isLogical Backend.predicates_isLogical)
      (fun _ _ _ made => criterionOutcome_byDefault_holds_iff made) compiled_plain
  refine ⟨plain, compiled_plain, (List.forall₂_eq_eq_eq ▸ order).symm, ?_, exact_rows⟩
  intro row definite
  have kept : query.predicate.holds row = true ↔ request.IsSatisfied config model row :=
    compile_holds_iff Backend.predicates_isLogical
      (fun _ _ _ made => criterionOutcome_holds_iff config model row made) compiled
  -- On definite values only the criteria that are satisfied count.
  rw [Bool.eq_iff_iff, exact_rows row, kept]
  exact SearchRequest.holds_congr fun condition member => by simp [definite condition member]

/-- A search for the students with an address elsewhere. -/
def elsewhere : SearchRequest :=
  ⟨some (.criterion ⟨"address", .notLike, [.text "Amman"]⟩), []⟩

/-- With the defaults, the search for an address elsewhere keeps a student without any address. -/
theorem compile_byDefault_holds_elsewhere :
    (∃ query, (standard .default).compile School.student elsewhere = .ok query) ∧
      ∃ plain, compile ⟨Backend.predicates.byDefault, .standard, .default⟩ School.student
          elsewhere = .ok plain ∧
        plain.predicate.holds (fun _ => .null) = true := by
  -- The search compiles, and by default its predicate holds where there is no text.
  refine ⟨⟨_, rfl⟩, ?_⟩
  obtain ⟨plain, compiled, -, -, exact_rows⟩ :=
    @compile_byDefault_holds .default School.student elsewhere _ rfl
  refine ⟨plain, compiled, (exact_rows _).mpr ?_⟩
  intro filter present
  cases present
  rw [Filter.Holds]
  -- A missing address is no text.
  right
  intro some_text
  obtain ⟨content, text⟩ := some_text
  cases text

/-- It is not the case that whatever compiles keeps the same rows with the defaults as without. -/
theorem exists_row_kept_byDefault_only :
    ¬∀ (config : Config) (model : EntityModel) (request : SearchRequest) (query plain : RowQuery),
      (standard config).compile model request = .ok query →
      compile ⟨Backend.predicates.byDefault, .standard, config⟩ model request = .ok plain →
      ∀ row, query.predicate.holds row = plain.predicate.holds row := by
  -- A student without any address is kept by default, and only then.
  intro same
  have kept := same .default School.student elsewhere _ _ rfl rfl fun _ => .null
  cases kept

end Compiler

end Criteria
