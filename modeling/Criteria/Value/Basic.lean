import Criteria.Calendar.Printer
import Criteria.Number.Layout

/-! Operand values, and the text each one is rendered as. -/

namespace Criteria

/-- An operand as a caller supplies it, or the native value that it becomes once coerced. -/
inductive Value where
  | null
  | bool (truth : Bool)
  | int (number : Int64)
  | float (number : Double)
  | text (content : String)
  | date (day : Date)
  | dateTime (moment : DateTime)
  | offsetDateTime (moment : OffsetDateTime)
deriving DecidableEq

namespace Value

/-- Whether a value is the null value. -/
def isNull : Value → Bool
  | .null => true
  | _ => false

/-- The content of a text value. -/
def text? : Value → Option String
  | .text content => some content
  | _ => none

/-- The name of the variant that a value belongs to. -/
def typeName : Value → String
  | .null => "Null"
  | .bool _ => "Bool"
  | .int _ => "Int"
  | .float _ => "Float"
  | .text _ => "Text"
  | .date _ => "Date"
  | .dateTime _ => "DateTime"
  | .offsetDateTime _ => "OffsetDateTime"

/--
Floats are positional from 0.0001 up to but not including ten to the 16, and always show a point
or an exponent, so that no float reads like an integer.
-/
def floatLayout : NumberLayout where
  positionalFrom := -4
  positionalBelow := 16
  plusExponent := false
  tie := .upward

/-- The words for the truth values. -/
def writeBool : Bool → List Char
  | true => ['t', 'r', 'u', 'e']
  | false => ['f', 'a', 'l', 's', 'e']

/-- The characters of a value's rendering, which coercion reads again. -/
def write : Value → List Char
  | .null => ['n', 'u', 'l', 'l']
  | .bool truth => writeBool truth
  | .int number => Numeral.signed number.toInt
  | .float number => floatLayout.write number
  | .text content => content.toList
  | .date day => day.write
  | .dateTime moment => moment.write
  | .offsetDateTime moment => moment.write

/-- A value as text. -/
def display (value : Value) : String :=
  String.ofList value.write

end Value

end Criteria
