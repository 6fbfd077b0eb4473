import Criteria.Filter.Operation
import Criteria.Value.Order

/-! Filter trees, sort keys and the search requests made of them. -/

namespace Criteria

/-- One condition: an attribute path, an operation and its operands. -/
structure Criterion where
  field : String
  operation : Operation
  operands : List Value
deriving DecidableEq

/-- How the children of a group combine. -/
inductive Combinator where
  | and
  | or
  | not
deriving DecidableEq

namespace Combinator

/-- Every combinator, in declaration order. -/
def all : List Combinator := [.and, .or, .not]

/-- The name of a combinator in a request. -/
def name : Combinator → String
  | .and => "AND"
  | .or => "OR"
  | .not => "NOT"

end Combinator

/-- A tree of criteria; any number of children is allowed until the tree is compiled. -/
inductive Filter where
  | criterion (condition : Criterion)
  | group (combinator : Combinator) (children : List Filter)

/-- A combinator with the filters that it combines. -/
structure Group where
  combinator : Combinator
  children : List Filter

/-- A group as a filter. -/
def Group.toFilter (group : Group) : Filter :=
  .group group.combinator group.children

/-- The direction of a sort key. -/
inductive Direction where
  | ascending
  | descending
deriving DecidableEq

namespace Direction

/-- Every direction, in declaration order. -/
def all : List Direction := [.ascending, .descending]

/-- The name of a direction in a request. -/
def name : Direction → String
  | .ascending => "ASC"
  | .descending => "DESC"

end Direction

/-- One sort key: an attribute path and a direction. -/
structure SortKey where
  field : String
  direction : Direction
deriving DecidableEq

/-- What a caller searches for: an optional filter, and sort keys from major to minor. -/
structure SearchRequest where
  filter : Option Filter
  sort : List SortKey

/-- Whether two lists of values agree value by value. -/
def sameValues : List Value → List Value → Bool
  | [], [] => true
  | left :: lefts, right :: rights => left.same right && sameValues lefts rights
  | _, _ => false

/-- Whether two criteria agree, their operands compared as values. -/
def Criterion.same (left right : Criterion) : Bool :=
  left.field = right.field && left.operation = right.operation
    && sameValues left.operands right.operands

mutual

/-- Whether two filters have one shape and agree criterion by criterion. -/
def Filter.same : Filter → Filter → Bool
  | .criterion left, .criterion right => left.same right
  | .group combinator children, .group combinator' children' =>
    combinator = combinator' && Filter.sameAll children children'
  | _, _ => false

/-- Whether two lists of filters agree filter by filter. -/
def Filter.sameAll : List Filter → List Filter → Bool
  | [], [] => true
  | left :: lefts, right :: rights => left.same right && Filter.sameAll lefts rights
  | _, _ => false

end

/-- Whether two requests agree. -/
def SearchRequest.same (left right : SearchRequest) : Bool :=
  let filters := match left.filter, right.filter with
    | none, none => true
    | some filter, some filter' => filter.same filter'
    | _, _ => false
  -- Sort keys are compared as they are written.
  filters && left.sort = right.sort

mutual

/-- How many criteria a filter has. -/
def Filter.criterionCount : Filter → Nat
  | .criterion _ => 1
  | .group _ children => Filter.criterionCounts children

/-- How many criteria the filters of a list have together. -/
def Filter.criterionCounts : List Filter → Nat
  | [] => 0
  | child :: rest => child.criterionCount + Filter.criterionCounts rest

end

mutual

/-- How many groups a filter has. -/
def Filter.groupCount : Filter → Nat
  | .criterion _ => 0
  | .group _ children => 1 + Filter.groupCounts children

/-- How many groups the filters of a list have together. -/
def Filter.groupCounts : List Filter → Nat
  | [] => 0
  | child :: rest => child.groupCount + Filter.groupCounts rest

end

end Criteria
