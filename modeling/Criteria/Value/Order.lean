import Criteria.Value.Basic

/-! How values compare: within a variant, and numerically between integers and floats. -/

namespace Criteria

/-- Texts compare by their characters' code points, a text before its extensions. -/
def textOrder : List Char → List Char → Ordering
  | [], [] => .eq
  | [], _ :: _ => .lt
  | _ :: _, [] => .gt
  | left :: lefts, right :: rights =>
    (compareOfLessAndEq left.toNat right.toNat).then (textOrder lefts rights)

/-- False comes before true. -/
def boolOrder : Bool → Bool → Ordering
  | false, true => .lt
  | true, false => .gt
  | _, _ => .eq

namespace Value

/--
The order of two values, undefined between variants that do not mix and wherever null takes part.

An integer meets a float as the float nearest to it.
-/
def compare? : Value → Value → Option Ordering
  | .bool left, .bool right => some (boolOrder left right)
  | .int left, .int right => some (compareOfLessAndEq left.toInt right.toInt)
  | .float left, .float right => left.compare? right
  -- Numbers of both variants meet as floats.
  | .int left, .float right => (Double.ofInt left.toInt).compare? right
  | .float left, .int right => left.compare? (Double.ofInt right.toInt)
  | .text left, .text right => some (textOrder left.toList right.toList)
  | .date left, .date right => some (left.order right)
  | .dateTime left, .dateTime right => some (left.order right)
  | .offsetDateTime left, .offsetDateTime right => some (left.order right)
  | _, _ => none

/--
Whether two values are of one variant and equal.

Floats are equal as numbers, so a float that is not a number differs from itself, and offset
date-times are equal as instants.
-/
def same : Value → Value → Bool
  | .float left, .float right => left.compare? right = some .eq
  | .offsetDateTime left, .offsetDateTime right => left.utc = right.utc
  | left, right => left = right

end Value

end Criteria
