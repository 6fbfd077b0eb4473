import Criteria.Predicate.Basic
import Criteria.Predicate.Like
import Criteria.Sorting.Adaptive

/-! Testing rows with predicates, and ordering them by sort terms. -/

namespace Criteria

/-- A stored record: the value at each attribute path, null where a reference is absent. -/
abbrev Row := AttributePath → Value

/-- Whether two values compare with an order that a test accepts. -/
def Value.comparesBy (test : Ordering → Bool) (left right : Value) : Bool :=
  match left.compare? right with
  | some order => test order
  | none => false

/-- Whether a value compares equal to one of a list. -/
def Value.isAmong (value : Value) (values : List Value) : Bool :=
  values.any fun member => value.comparesBy Comparison.equal.holds member

/-- Whether a value is a text that passes a test. -/
def Value.isTextThat (test : String → Bool) (value : Value) : Bool :=
  match value.text? with
  | some content => test content
  | none => false

namespace Predicate

mutual

/--
Whether a predicate holds of a row.

Null, and values without an order between them, satisfy no comparison.
-/
def holds (row : Row) : Predicate → Bool
  | .always => true
  | .never => false
  | .and children => allHold row children
  | .or children => anyHolds row children
  | .not child => !child.holds row
  | .compare path comparison value => (row path).comparesBy comparison.holds value
  | .between path low high =>
    (row path).comparesBy Comparison.greaterEqual.holds low
      && (row path).comparesBy Comparison.lessEqual.holds high
  | .like path pattern =>
    (row path).isTextThat fun content => Like.isMatch content.toList pattern.toList
  -- This is no negation: what is no text passes neither of the two tests.
  | .notLike path pattern =>
    (row path).isTextThat fun content => !Like.isMatch content.toList pattern.toList
  | .isNull path => (row path).isNull
  | .isNotNull path => !(row path).isNull
  -- Nor is the second of these the negation of the first, as null is in no list and out of none.
  | .inList path values => !(row path).isNull && (row path).isAmong values
  | .notInList path values => !(row path).isNull && !(row path).isAmong values

/-- Whether every predicate of a list holds. -/
def allHold (row : Row) : List Predicate → Bool
  | [] => true
  | child :: rest => child.holds row && allHold row rest

/-- Whether some predicate of a list holds. -/
def anyHolds (row : Row) : List Predicate → Bool
  | [] => false
  | child :: rest => child.holds row || anyHolds row rest

end

end Predicate

/-- The order of two values for sorting: null first, and values without an order level. -/
def Value.sortOrder (left right : Value) : Ordering :=
  match left.isNull, right.isNull with
  | true, true => .eq
  | true, false => .lt
  | false, true => .gt
  | false, false => (left.compare? right).getD .eq

namespace SortTerm

/-- The order of two rows by one term. -/
def order (term : SortTerm) (left right : Row) : Ordering :=
  let ascending := (left term.path).sortOrder (right term.path)
  match term.direction with
  | .ascending => ascending
  | .descending => ascending.swap

/-- The order of two rows by the first term that tells them apart. -/
def orderBy (left right : Row) : List SortTerm → Ordering
  | [] => .eq
  -- Later terms are asked only where the earlier ones tie.
  | term :: rest => (term.order left right).then (orderBy left right rest)

end SortTerm

namespace Query

/--
The records that a query keeps, sorted by its terms.

There are none at all if the terms contradict themselves on them and sorting finds that out.
-/
def select? {α : Type} (query : RowQuery) (row : α → Row) (records : List α) :
    Option (List α) :=
  let kept := records.filter fun candidate => query.predicate.holds (row candidate)
  Sorting.sort?
    (fun left right => SortTerm.orderBy (row left) (row right) query.order = .lt) kept

/-- How many records a query keeps. -/
def count {α : Type} (query : RowQuery) (row : α → Row) (records : List α) : Nat :=
  (records.filter fun candidate => query.predicate.holds (row candidate)).length

end Query

end Criteria
