import Criteria.Filter.Tree
import Criteria.Model.Path

/-! Compiled predicates over the attributes of a row, and compiled sort terms. -/

namespace Criteria

/-- A comparison of an attribute with a literal. -/
inductive Comparison where
  | equal
  | notEqual
  | less
  | lessEqual
  | greater
  | greaterEqual
deriving DecidableEq

namespace Comparison

/-- Every comparison, in declaration order. -/
def all : List Comparison := [.equal, .notEqual, .less, .lessEqual, .greater, .greaterEqual]

/-- The symbol of a comparison. -/
def symbol : Comparison → String
  | .equal => "="
  | .notEqual => "<>"
  | .less => "<"
  | .lessEqual => "<="
  | .greater => ">"
  | .greaterEqual => ">="

/-- Whether a comparison holds of two values that have this order. -/
def holds : Comparison → Ordering → Bool
  | .equal, order => order = .eq
  | .notEqual, order => order ≠ .eq
  | .less, order => order = .lt
  | .lessEqual, order => order ≠ .gt
  | .greater, order => order = .gt
  | .greaterEqual, order => order ≠ .lt

end Comparison

/-- A predicate that rows can be tested with. -/
inductive Predicate where
  | always
  | never
  | and (children : List Predicate)
  | or (children : List Predicate)
  | not (child : Predicate)
  -- The tests of one attribute.
  | compare (path : AttributePath) (comparison : Comparison) (value : Value)
  | between (path : AttributePath) (low high : Value)
  | like (path : AttributePath) (pattern : String)
  | notLike (path : AttributePath) (pattern : String)
  | isNull (path : AttributePath)
  | isNotNull (path : AttributePath)
  | inList (path : AttributePath) (values : List Value)
  | notInList (path : AttributePath) (values : List Value)

/-- A compiled sort key. -/
structure SortTerm where
  path : AttributePath
  direction : Direction
deriving DecidableEq

/-- A compiled request: a predicate, and sort terms from major to minor. -/
structure Query (P O : Type) where
  predicate : P
  order : List O

/-- A query over the library's own predicates. -/
abbrev RowQuery := Query Predicate SortTerm

end Criteria
