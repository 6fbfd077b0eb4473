import Criteria.Predicate.Basic

/-! What a query layer offers to build predicates with, and the layer that the library brings. -/

namespace Criteria

/--
The primitives of a query layer with predicates `P` and sort terms `O`.

The last three have a meaning in terms of the others, which a layer may replace.
-/
structure Backend (P O : Type) where
  always : P
  never : P
  compare : Attribute → Comparison → Value → P
  /-- Both bounds are part of the range. -/
  between : Attribute → Value → Value → P
  /-- The pattern is complete, wildcards included. -/
  like : Attribute → String → P
  isNull : Attribute → P
  /-- The list is never empty. -/
  inList : Attribute → List Value → P
  and : List P → P
  or : List P → P
  not : P → P
  order : Attribute → Direction → O
  -- A layer without words of its own for these negates the primitive.
  notLike : Attribute → String → P := fun subject pattern => not (like subject pattern)
  isNotNull : Attribute → P := fun subject => not (isNull subject)
  notInList : Attribute → List Value → P := fun subject values => not (inList subject values)

/-- The library's own layer, with a predicate for each primitive. -/
def Backend.predicates : Backend Predicate SortTerm where
  always := .always
  never := .never
  compare subject := .compare subject.path
  between subject := .between subject.path
  like subject := .like subject.path
  isNull subject := .isNull subject.path
  inList subject := .inList subject.path
  and := .and
  or := .or
  not := .not
  order subject := .mk subject.path
  notLike subject := .notLike subject.path
  isNotNull subject := .isNotNull subject.path
  notInList subject := .notInList subject.path

end Criteria
