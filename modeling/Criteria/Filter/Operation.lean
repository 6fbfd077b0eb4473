/-! The operations that a criterion may use. -/

namespace Criteria

/-- The closed set of operations. -/
inductive Operation where
  | equal
  | notEqual
  | lessThan
  | lessThanEqual
  | greaterThan
  | greaterThanEqual
  | between
  | like
  | notLike
  | isIn
  | notIn
  | isNull
  | isNotNull
  | isTrue
  | isFalse
  | isEmptyString
  | isNotEmptyString
deriving DecidableEq

namespace Operation

/-- Every operation, in declaration order. -/
def all : List Operation :=
  [.equal, .notEqual, .lessThan, .lessThanEqual, .greaterThan, .greaterThanEqual, .between,
    .like, .notLike, .isIn, .notIn, .isNull, .isNotNull, .isTrue, .isFalse, .isEmptyString,
    .isNotEmptyString]

/-- The name of an operation in a request. -/
def name : Operation → String
  | .equal => "EQUAL"
  | .notEqual => "NOT_EQUAL"
  | .lessThan => "LESS_THAN"
  | .lessThanEqual => "LESS_THAN_EQUAL"
  | .greaterThan => "GREATER_THAN"
  | .greaterThanEqual => "GREATER_THAN_EQUAL"
  | .between => "BETWEEN"
  | .like => "LIKE"
  | .notLike => "NOT_LIKE"
  | .isIn => "IN"
  | .notIn => "NOT_IN"
  | .isNull => "IS_NULL"
  | .isNotNull => "IS_NOT_NULL"
  | .isTrue => "IS_TRUE"
  | .isFalse => "IS_FALSE"
  | .isEmptyString => "IS_EMPTY_STRING"
  | .isNotEmptyString => "IS_NOT_EMPTY_STRING"

/-- The title of an operation in a description of a registry. -/
def title : Operation → String
  | .equal => "Equal"
  | .notEqual => "NotEqual"
  | .lessThan => "LessThan"
  | .lessThanEqual => "LessThanEqual"
  | .greaterThan => "GreaterThan"
  | .greaterThanEqual => "GreaterThanEqual"
  | .between => "Between"
  | .like => "Like"
  | .notLike => "NotLike"
  | .isIn => "In"
  | .notIn => "NotIn"
  | .isNull => "IsNull"
  | .isNotNull => "IsNotNull"
  | .isTrue => "IsTrue"
  | .isFalse => "IsFalse"
  | .isEmptyString => "IsEmptyString"
  | .isNotEmptyString => "IsNotEmptyString"

/-- The place of an operation in declaration order. -/
def index (operation : Operation) : Nat :=
  all.idxOf operation

/-- The operation with exactly this name. -/
def ofName? (name : String) : Option Operation :=
  all.find? fun operation => operation.name = name

/-- The list of operations leaves none out. -/
theorem mem_all (operation : Operation) : operation ∈ all := by
  cases operation <;> simp [all]

end Operation

end Criteria
