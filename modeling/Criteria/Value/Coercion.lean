import Criteria.Calendar.Reader
import Criteria.Model.Schema
import Criteria.Number.Reader
import Criteria.Value.Basic

/-! Converting an operand to the native value of an attribute's kind. -/

namespace Criteria

/-- A value that has no counterpart in the kind it was to be converted to. -/
structure CoercionError where
  value : String
  target : String
deriving DecidableEq

namespace CoercionError

/-- The error as a message. -/
def message (error : CoercionError) : String :=
  "the value '" ++ error.value ++ "' is not compatible with type " ++ error.target

end CoercionError

/-- An integer of at most `bits` bits in two's complement, if the number fits. -/
def boundedInt? (bits : Nat) (number : Int) : Option Int64 :=
  let bound : Int := Nat.pow 2 (bits - 1)
  if -bound ≤ number ∧ number < bound then some (Int64.ofInt number) else none

/-- The truth value that exactly one of the two words names. -/
def readBool? (text : List Char) : Option Bool :=
  if text = Value.writeBool true then some true
  else if text = Value.writeBool false then some false
  else none

namespace FieldKind

/-- The native value that a rendered operand denotes in a scalar kind. -/
def read? (kind : FieldKind) (text : List Char) : Option Value :=
  match kind with
  | .text => some (.text (String.ofList text))
  | .int => ((Numeral.integer? text).bind (boundedInt? 32)).map .int
  | .long => ((Numeral.integer? text).bind (boundedInt? 64)).map .int
  -- A float of single precision is rounded as such before it is widened.
  | .float => (FloatNumeral.ofText? text).map fun numeral => .float numeral.toSingle
  | .double => (FloatNumeral.ofText? text).map fun numeral => .float numeral.toDouble
  | .bool => (readBool? text).map .bool
  | .date => (Date.read? text).map .date
  | .dateTime => (DateTime.read? text).map .dateTime
  | .offsetDateTime => (OffsetDateTime.read? text).map .offsetDateTime
  -- Only scalar kinds read texts.
  | .relation _ | .collection _ | .other _ => none

end FieldKind

namespace Value

/--
The native value of a kind that an operand stands for.

References and opaque kinds take any operand as it is, null included. For scalar kinds the
rendered operand is read again, and null stands for nothing.
-/
def coerce (raw : Value) (kind : FieldKind) : Except CoercionError Value :=
  if kind.isScalar then
    -- Null has a rendering too, but it is never read.
    match if raw.isNull then none else kind.read? raw.write with
    | some value => .ok value
    | none => .error ⟨raw.display, kind.typeName⟩
  else .ok raw

end Value

end Criteria
