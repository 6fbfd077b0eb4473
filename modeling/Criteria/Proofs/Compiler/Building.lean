import Criteria.Proofs.Compiler.Agreement
import Criteria.Proofs.Compiler.Faults

/-! What the builders of the standard entries answer for operands that no one has counted. -/

namespace Criteria

/-- An operation is nullary if its standard entry takes no operands. -/
def Operation.IsNullary (operation : Operation) : Prop :=
  (Entry.standard operation).arity = .exactly 0

instance (operation : Operation) : Decidable operation.IsNullary :=
  inferInstanceAs (Decidable ((Entry.standard operation).arity = .exactly 0))

/-- Where one operand is taken, any other number of them is refused. -/
theorem oneOperand_eq_error (operation : Operation) {operands : List Value}
    (miscounted : operands.length ≠ 1) :
    oneOperand operation operands =
      .error (.invalidOperandCount operation operands (.exactly 1)) := by
  -- Only the list with a single member is told apart from the others.
  rcases operands with _ | ⟨first, _ | ⟨second, rest⟩⟩
  · rfl
  · exact absurd rfl miscounted
  · rfl

/-- Where two operands are taken, any other number of them is refused. -/
theorem twoOperands_eq_error (operation : Operation) {operands : List Value}
    (miscounted : operands.length ≠ 2) :
    twoOperands operation operands =
      .error (.invalidOperandCount operation operands (.exactly 2)) := by
  -- Only the list with two members is told apart from the others.
  rcases operands with _ | ⟨first, _ | ⟨second, _ | ⟨third, rest⟩⟩⟩
  · rfl
  · rfl
  · exact absurd rfl miscounted
  · rfl

namespace Operation

variable {config : Config} {operation : Operation} {operands : List Value}

/-- A nullary operation asks for the same primitive whatever operands it is given. -/
theorem IsNullary.primitive_eq (nullary : operation.IsNullary) (operands : List Value) :
    operation.primitive config operands = operation.primitive config [] := by
  -- The primitives of these operations are constants, and all others take some operands.
  cases operation with
  | isNull | isNotNull | isTrue | isFalse | isEmptyString | isNotEmptyString => rfl
  | equal | notEqual | lessThan | lessThanEqual | greaterThan | greaterThanEqual | between | like
  | notLike | isIn | notIn => cases nullary

/-- An operation that takes some operands refuses any number that it does not take. -/
theorem primitive_eq_error (taking : ¬operation.IsNullary)
    (miscounted : (Entry.standard operation).arity.accepts operands.length = false) :
    operation.primitive config operands =
      .error (.invalidOperandCount operation operands (Entry.standard operation).arity) := by
  -- Each operation takes one operand, two of them, any number or none.
  cases operation with
  | equal | notEqual | lessThan | lessThanEqual | greaterThan | greaterThanEqual | like | notLike =>
    rw [primitive, oneOperand_eq_error _ (of_decide_eq_false miscounted)]
    rfl
  | between =>
    rw [primitive, twoOperands_eq_error _ (of_decide_eq_false miscounted)]
    rfl
  -- A list of values may have any length, so no number of operands is refused.
  | isIn | notIn => cases miscounted
  -- These take no operands at all.
  | isNull | isNotNull | isTrue | isFalse | isEmptyString | isNotEmptyString =>
    exact absurd rfl taking

end Operation

namespace Backend

variable {P O : Type}

/-- A builder of an operation that takes some operands refuses any number that it does not take. -/
theorem build_eq_error (backend : Backend P O) (config : Config) {operation : Operation}
    (subject : Attribute) {operands : List Value} (taking : ¬operation.IsNullary)
    (miscounted : (Entry.standard operation).arity.accepts operands.length = false) :
    backend.build config (Entry.standard operation).builder subject operands =
      .error (.invalidOperandCount operation operands (Entry.standard operation).arity) := by
  -- Each layer builds what it has for the primitive, and there is none.
  rw [Entry.builder_standard, build_eq_map_primitive, Operation.primitive_eq_error taking miscounted]
  rfl

/-- The builder of a nullary operation drops whatever operands it is given. -/
theorem build_eq_build_nil (backend : Backend P O) (config : Config) {operation : Operation}
    (subject : Attribute) (nullary : operation.IsNullary) (operands : List Value) :
    backend.build config (Entry.standard operation).builder subject operands =
      backend.build config (Entry.standard operation).builder subject [] := by
  -- Each layer builds what it has for the primitive, which is the same one.
  rw [build_eq_map_primitive, build_eq_map_primitive, Entry.builder_standard,
    nullary.primitive_eq operands]

/-- A standard builder gives a predicate for as many operands as its entry takes, and refuses any
other number with the operation, these operands and the arity of the entry. Only the builders of
nullary operations give one for any operands at all, and always the one that they give for none. -/
theorem build_refuses_miscounted_unless_nullary (backend : Backend P O) (config : Config)
    (operation : Operation) (subject : Attribute) (operands : List Value) :
    let entry := Entry.standard operation
    let answer := backend.build config entry.builder subject
    ((∃ predicate, answer operands = .ok predicate) ↔
      entry.arity.accepts operands.length = true ∨ operation.IsNullary) ∧
    (∀ rejection, answer operands = .error rejection ↔
      entry.arity.accepts operands.length = false ∧ ¬operation.IsNullary ∧
        rejection = .invalidOperandCount operation operands entry.arity) ∧
    (operation.IsNullary → answer operands = answer []) := by
  intro entry answer
  -- There is a predicate in both of the first cases, and a rejection in the only other one.
  by_cases nullary : operation.IsNullary
  · -- A nullary operation drops its operands, so its answer is the one for none.
    have dropped : answer operands = answer [] :=
      backend.build_eq_build_nil config subject nullary operands
    have none : entry.arity.accepts ([] : List Value).length = true := by
      rw [show entry.arity = .exactly 0 from nullary]
      rfl
    obtain ⟨predicate, built⟩ := backend.exists_build_eq_ok config operation subject none
    have given : answer operands = .ok predicate := dropped.trans built
    exact ⟨by simp [given, nullary], by simp [given, nullary], fun _ => dropped⟩
  · have taking : operation.IsNullary → answer operands = answer [] :=
      fun isNullary => absurd isNullary nullary
    cases counted : entry.arity.accepts operands.length with
    -- Any other operation builds from as many operands as it takes.
    | true =>
      obtain ⟨predicate, built⟩ := backend.exists_build_eq_ok config operation subject counted
      have given : answer operands = .ok predicate := built
      exact ⟨by simp [given], by simp [given], taking⟩
    -- It refuses any other number of them.
    | false =>
      have refused : answer operands =
          .error (.invalidOperandCount operation operands entry.arity) :=
        backend.build_eq_error config subject nullary counted
      exact ⟨by simp [refused, nullary], by simp [refused, nullary, eq_comm], taking⟩

/-- A test for null is built for an attribute and an operand, which its entry does not take. -/
theorem not_build_refuses_miscounted :
    ¬∀ (model : EntityModel) (text : String) (subject : Attribute),
      model.resolve text = .ok subject →
      ∀ (config : Config) (operation : Operation) (operands : List Value),
        (∃ predicate, predicates.build config (Entry.standard operation).builder subject operands =
          .ok predicate) ↔ (Entry.standard operation).arity.accepts operands.length = true := by
  intro refuses
  -- Whether a student has no community is asked with a number, which the builder drops.
  have counted := (refuses School.student "community" _ rfl .default .isNull [.int 1]).mp
    ⟨.isNull (.ofText "community"), rfl⟩
  cases counted

end Backend

end Criteria
