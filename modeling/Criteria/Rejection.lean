import Criteria.Contract
import Criteria.Filter.Tree
import Criteria.Model.Path
import Criteria.Value.Coercion

/-! Why a search request is refused. -/

namespace Criteria

/-- The kind of a rejection, with a code that stays the same. -/
inductive RejectionKind where
  | invalidSortingField
  | invalidOperation
  | invalidFieldValue
  | invalidOperandCount
  | invalidFieldName
  | emptyConditions
  | invalidConditionsCount
  | incompatibleOperation
  | maxDepthExceeded
deriving DecidableEq

namespace RejectionKind

/-- Every kind of rejection, in the order of their codes. -/
def all : List RejectionKind :=
  [.invalidSortingField, .invalidOperation, .invalidFieldValue, .invalidOperandCount,
    .invalidFieldName, .emptyConditions, .invalidConditionsCount, .incompatibleOperation,
    .maxDepthExceeded]

/-- The stable code of a kind. -/
def code : RejectionKind → String
  | .invalidSortingField => "SIFT-001"
  | .invalidOperation => "SIFT-002"
  | .invalidFieldValue => "SIFT-003"
  | .invalidOperandCount => "SIFT-004"
  | .invalidFieldName => "SIFT-005"
  | .emptyConditions => "SIFT-006"
  | .invalidConditionsCount => "SIFT-007"
  | .incompatibleOperation => "SIFT-008"
  | .maxDepthExceeded => "SIFT-009"

/-- The name of a kind. -/
def name : RejectionKind → String
  | .invalidSortingField => "InvalidSortingField"
  | .invalidOperation => "InvalidOperation"
  | .invalidFieldValue => "InvalidFieldValue"
  | .invalidOperandCount => "InvalidOperandCount"
  | .invalidFieldName => "InvalidFieldName"
  | .emptyConditions => "EmptyConditions"
  | .invalidConditionsCount => "InvalidConditionsCount"
  | .incompatibleOperation => "IncompatibleOperation"
  | .maxDepthExceeded => "MaxDepthExceeded"

end RejectionKind

/-- How many children a group of each combinator needs, in words. -/
def Combinator.childrenNeeded : Combinator → String
  | .not => "exactly 1"
  | .and | .or => "at least 2"

/-- The first fault that was found in a search request. -/
inductive Rejection where
  | invalidSortingField (field : String)
  | invalidOperation (name : String)
  | invalidFieldValue (value target : String)
  | invalidOperandCount (operation : Operation) (operands : List Value) (expected : Arity)
  | invalidFieldName (segment owner : String)
  | emptyConditions (combinator : Combinator)
  | invalidConditionsCount (combinator : Combinator)
  | incompatibleOperation (operation : Operation) (field kind : String)
  | maxDepthExceeded (limit : Nat)
deriving DecidableEq

namespace Rejection

/-- The kind of a rejection. -/
def kind : Rejection → RejectionKind
  | .invalidSortingField .. => .invalidSortingField
  | .invalidOperation .. => .invalidOperation
  | .invalidFieldValue .. => .invalidFieldValue
  | .invalidOperandCount .. => .invalidOperandCount
  | .invalidFieldName .. => .invalidFieldName
  | .emptyConditions .. => .emptyConditions
  | .invalidConditionsCount .. => .invalidConditionsCount
  | .incompatibleOperation .. => .incompatibleOperation
  | .maxDepthExceeded .. => .maxDepthExceeded

/-- A rejection as a message. -/
def message : Rejection → String
  | .invalidSortingField field => "invalid sorting field '" ++ field ++ "'"
  | .invalidOperation name => "unsupported operation '" ++ name ++ "'"
  | .invalidFieldValue value target =>
    "the value '" ++ value ++ "' is not compatible with type " ++ target
  | .invalidOperandCount operation operands expected =>
    "the operands [" ++ ", ".intercalate (operands.map Value.display)
      ++ "] are not compatible with operation " ++ operation.name
      ++ "; expected " ++ expected.display
  | .invalidFieldName segment owner =>
    "could not resolve attribute '" ++ segment ++ "' of " ++ owner
  | .emptyConditions combinator =>
    "the number of conditions of a " ++ combinator.name ++ " group can not be zero"
  | .invalidConditionsCount combinator =>
    "invalid conditions count for " ++ combinator.name
      ++ "; should be " ++ combinator.childrenNeeded
  | .incompatibleOperation operation field kind =>
    "operation " ++ operation.name ++ " is not valid for field '" ++ field
      ++ "' of type " ++ kind
  | .maxDepthExceeded limit =>
    "filter tree exceeds the maximum depth of " ++ String.ofList (Numeral.digits limit)

/-- The message after the stable code. -/
def codedMessage (rejection : Rejection) : String :=
  rejection.kind.code ++ ": " ++ rejection.message

/-- A path that leads nowhere, as a rejection. -/
def ofResolveError (error : ResolveError) : Rejection :=
  .invalidFieldName error.segment error.owner

/-- An operand that does not fit its attribute, as a rejection. -/
def ofCoercionError (error : CoercionError) : Rejection :=
  .invalidFieldValue error.value error.target

end Rejection

/-- The operation of a name in a request, or the rejection of an unknown name. -/
def Operation.parse (name : String) : Except Rejection Operation :=
  match Operation.ofName? name with
  | some operation => .ok operation
  | none => .error (.invalidOperation name)

end Criteria
