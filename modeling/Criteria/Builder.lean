import Criteria.Backend
import Criteria.Config
import Criteria.Rejection

/-! How each operation builds a predicate out of an attribute and operands. -/

namespace Criteria

/-- The only operand of an operation that takes one. -/
def oneOperand (operation : Operation) : List Value → Except Rejection Value
  | [value] => .ok value
  | operands => .error (.invalidOperandCount operation operands (.exactly 1))

/-- Both operands of an operation that takes two. -/
def twoOperands (operation : Operation) : List Value → Except Rejection (Value × Value)
  | [first, second] => .ok (first, second)
  | operands => .error (.invalidOperandCount operation operands (.exactly 2))

/-- The pattern of a rendered operand, which may stand anywhere if patterns are wrapped. -/
def Config.likePattern (config : Config) (value : Value) : String :=
  if config.wrapLikePattern then String.ofList ('%' :: value.write ++ ['%']) else value.display

variable {P O : Type}

/-- The predicate of a comparison with the only operand. -/
def Backend.buildComparison (backend : Backend P O) (subject : Attribute) (operation : Operation)
    (comparison : Comparison) (operands : List Value) : Except Rejection P := do
  let value ← oneOperand operation operands
  .ok (backend.compare subject comparison value)

/--
The predicate that an operation builds.

Operations without operands do not look at the list, and an empty list has no member.
-/
def Backend.build (backend : Backend P O) (config : Config) (operation : Operation)
    (subject : Attribute) (operands : List Value) : Except Rejection P :=
  match operation with
  | .equal => backend.buildComparison subject .equal .equal operands
  | .notEqual => backend.buildComparison subject .notEqual .notEqual operands
  | .lessThan => backend.buildComparison subject .lessThan .less operands
  | .lessThanEqual => backend.buildComparison subject .lessThanEqual .lessEqual operands
  | .greaterThan => backend.buildComparison subject .greaterThan .greater operands
  | .greaterThanEqual => backend.buildComparison subject .greaterThanEqual .greaterEqual operands
  | .between => do
    let (low, high) ← twoOperands .between operands
    .ok (backend.between subject low high)
  | .like => do
    let value ← oneOperand .like operands
    .ok (backend.like subject (config.likePattern value))
  | .notLike => do
    let value ← oneOperand .notLike operands
    .ok (backend.notLike subject (config.likePattern value))
  -- Nothing is among no values, and everything is outside of them.
  | .isIn => .ok (if operands.isEmpty then backend.never else backend.inList subject operands)
  | .notIn =>
    .ok (if operands.isEmpty then backend.always else backend.notInList subject operands)
  -- From here on no operand is looked at, however many there are.
  | .isNull => .ok (backend.isNull subject)
  | .isNotNull => .ok (backend.isNotNull subject)
  -- Truth values and empty texts are compared with a literal.
  | .isTrue => .ok (backend.compare subject .equal (.bool true))
  | .isFalse => .ok (backend.compare subject .equal (.bool false))
  | .isEmptyString => .ok (backend.compare subject .equal (.text ""))
  | .isNotEmptyString => .ok (backend.compare subject .notEqual (.text ""))

end Criteria
