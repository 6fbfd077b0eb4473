import Criteria.Filter.Operation
import Criteria.Model.Schema
import Criteria.Text.Numeral

/-! What an operation asks of its operands and of the attribute it is applied to. -/

namespace Criteria

/-- How many operands an operation takes. -/
inductive Arity where
  | exactly (count : Nat)
  | atLeast (count : Nat)
deriving DecidableEq

namespace Arity

/-- Whether a number of operands is one that the operation takes. -/
def accepts : Arity → Nat → Bool
  | .exactly expected, count => count = expected
  | .atLeast least, count => least ≤ count

/-- The arity in words. -/
def display : Arity → String
  | .exactly count => "exactly " ++ String.ofList (Numeral.digits count)
  | .atLeast count => String.ofList (Numeral.digits count) ++ " or more"

/-- The arity as a registry's description shows it. -/
def describe : Arity → String
  | .exactly count => "Exactly(" ++ String.ofList (Numeral.digits count) ++ ")"
  | .atLeast count => "AtLeast(" ++ String.ofList (Numeral.digits count) ++ ")"

end Arity

/-- Which kinds of attribute an operation can be applied to. -/
inductive Requirement where
  | any
  | orderable
  | text
  | bool
deriving DecidableEq

namespace Requirement

/-- Whether an attribute of this kind meets the requirement. -/
def admits : Requirement → FieldKind → Bool
  | .any, _ => true
  | .orderable, kind => kind.isOrderable
  | .text, kind => kind.isText
  | .bool, kind => kind.isBool

/-- The name of a requirement. -/
def name : Requirement → String
  | .any => "Any"
  | .orderable => "Orderable"
  | .text => "Text"
  | .bool => "Bool"

end Requirement

/-- The registered contract of one operation, and the operation whose predicate it builds. -/
structure Entry where
  arity : Arity
  requirement : Requirement
  /-- Whether operands are converted to the attribute's kind first. -/
  coerces : Bool
  builder : Operation
deriving DecidableEq

namespace Entry

/-- The contract of an operation unless a registry says otherwise. -/
def standard (operation : Operation) : Entry :=
  match operation with
  | .equal | .notEqual => ⟨.exactly 1, .any, true, operation⟩
  | .lessThan | .lessThanEqual | .greaterThan | .greaterThanEqual =>
    ⟨.exactly 1, .orderable, true, operation⟩
  | .between => ⟨.exactly 2, .orderable, true, operation⟩
  | .like | .notLike => ⟨.exactly 1, .text, true, operation⟩
  -- Members of a list are compared as they were supplied.
  | .isIn | .notIn => ⟨.atLeast 0, .any, false, operation⟩
  -- Operations without operands have none to convert.
  | .isNull | .isNotNull => ⟨.exactly 0, .any, true, operation⟩
  | .isTrue | .isFalse => ⟨.exactly 0, .bool, true, operation⟩
  | .isEmptyString | .isNotEmptyString => ⟨.exactly 0, .text, true, operation⟩

/-- An entry as a registry's description shows it. -/
def describe (entry : Entry) : String :=
  "OperationSpec \x7b arity: " ++ entry.arity.describe
    ++ ", requirement: " ++ entry.requirement.name
    ++ ", coerce: " ++ (if entry.coerces then "true" else "false") ++ ", .. \x7d"

end Entry

end Criteria
