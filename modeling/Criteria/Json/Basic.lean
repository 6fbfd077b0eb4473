import Criteria.Number.Reader

/-! JSON values as far as a text holds them. -/

namespace Criteria

/-- A number of a JSON text. -/
inductive JsonNumber where
  /-- Written without point and exponent, and held by 64 bits with or without a sign. -/
  | integer (number : Int)
  /-- Any other number, as the nearest double. -/
  | real (number : Double)
  /-- Beyond the largest double. -/
  | outOfRange
deriving DecidableEq

namespace JsonNumber

/-- The least integer that is kept exactly. -/
def leastInteger : Int := -0x8000000000000000

/-- The greatest integer that is kept exactly. -/
def greatestInteger : Int := 0xFFFFFFFFFFFFFFFF

/-- A decimal as a double, unless it is beyond the largest one. -/
def ofDecimal (number : Decimal) : JsonNumber :=
  if number.toDouble.isFinite then .real number.toDouble else .outOfRange

/-- An integer numeral, which a minus sign before zero makes a double. -/
def ofInteger (negative : Bool) (magnitude : Nat) : JsonNumber :=
  let number : Int := if negative then -(magnitude : Int) else magnitude
  if negative && magnitude = 0 then .real (.ofRank true 0)
  else if leastInteger ≤ number ∧ number ≤ greatestInteger then .integer number
  else .ofDecimal ⟨negative, magnitude, 0⟩

end JsonNumber

/-- The key of an object's member. -/
inductive JsonKey where
  | text (content : String)
  /-- A string with an escape for half of a character whose other half is not there. -/
  | unpaired
  /-- No string where the key should be. -/
  | missing
deriving DecidableEq

/--
A JSON value.

Where a text stops being JSON a broken value stands, and nothing after it is kept.
-/
inductive Json where
  | null
  | boolean (truth : Bool)
  | number (number : JsonNumber)
  | string (content : String)
  /-- A string with an escape for half of a character whose other half is not there. -/
  | unpaired
  | array (elements : List Json)
  /-- Members in the order of the text, repeated keys included. -/
  | object (members : List (JsonKey × Json))
  | broken

/-- The value of a text, and whether only blanks follow it. -/
structure JsonDocument where
  value : Json
  complete : Bool

mutual

/-- Whether a value was read to its end. -/
def Json.isWhole : Json → Bool
  | .array elements => Json.areWhole elements
  | .object members => Json.haveWhole members
  | .broken => false
  | _ => true

/-- Whether every element of an array was read to its end. -/
def Json.areWhole : List Json → Bool
  | [] => true
  | element :: rest => element.isWhole && Json.areWhole rest

/-- Whether every member of an object was read to its end. -/
def Json.haveWhole : List (JsonKey × Json) → Bool
  | [] => true
  | (_, value) :: rest => value.isWhole && Json.haveWhole rest

end

mutual

/-- Whether a value was read to its end, all its strings are texts and all its numbers doubles. -/
def Json.isReadable : Json → Bool
  | .number .outOfRange => false
  | .unpaired => false
  | .array elements => Json.areReadable elements
  | .object members => Json.haveReadable members
  | .broken => false
  | _ => true

/-- Whether every element of an array is readable. -/
def Json.areReadable : List Json → Bool
  | [] => true
  | element :: rest => element.isReadable && Json.areReadable rest

/-- Whether every member of an object is readable, its key included. -/
def Json.haveReadable : List (JsonKey × Json) → Bool
  | [] => true
  | (.text _, value) :: rest => value.isReadable && Json.haveReadable rest
  | (_, _) :: _ => false

end

end Criteria
