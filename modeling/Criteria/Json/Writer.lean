import Criteria.Json.Basic
import Criteria.Number.Layout

/-! JSON values as compact text. -/

namespace Criteria

namespace Json

/-- A digit of a code in an escape. -/
def hexDigit (digit : Nat) : Char :=
  Nat.digitChar digit

/-- One character inside a string: quotes, backslashes and controls are escaped. -/
def writeChar (c : Char) : List Char :=
  if c = '"' then ['\\', '"']
  else if c = '\\' then ['\\', '\\']
  else if c = '\x08' then ['\\', 'b']
  else if c = '\x0c' then ['\\', 'f']
  else if c = '\n' then ['\\', 'n']
  else if c = '\r' then ['\\', 'r']
  else if c = '\t' then ['\\', 't']
  else if c.toNat < 0x20 then
    ['\\', 'u', '0', '0', hexDigit (c.toNat / 16), hexDigit (c.toNat % 16)]
  else [c]

/-- A text as a string. -/
def writeString (content : String) : List Char :=
  '"' :: content.toList.flatMap writeChar ++ ['"']

/--
Floats are positional from 0.00001 up to but not including ten to the 16, and other exponents
always have a sign.
-/
def numberLayout : NumberLayout where
  positionalFrom := -5
  positionalBelow := 16
  plusExponent := true
  tie := .toEven

/-- A number; what is no finite number is written as null. -/
def writeNumber : JsonNumber → List Char
  | .integer whole => Numeral.signed whole
  | .real magnitude =>
    if magnitude.isFinite then numberLayout.write magnitude else "null".toList
  | .outOfRange => "null".toList

/-- A key; only texts are keys of a value that is written. -/
def writeKey : JsonKey → List Char
  | .text content => writeString content
  | _ => writeString ""

mutual

/-- The characters of a value, without blanks. -/
def write : Json → List Char
  | .null => "null".toList
  | .boolean true => "true".toList
  | .boolean false => "false".toList
  | .number found => writeNumber found
  | .string content => writeString content
  | .unpaired => writeString ""
  | .array elements => '[' :: writeElements elements ++ [']']
  | .object members => '{' :: writeMembers members ++ ['}']
  | .broken => []

/-- Elements with commas between them. -/
def writeElements : List Json → List Char
  | [] => []
  | [element] => element.write
  | element :: next :: rest => element.write ++ ',' :: writeElements (next :: rest)

/-- Members with commas between them. -/
def writeMembers : List (JsonKey × Json) → List Char
  | [] => []
  | [(key, value)] => writeKey key ++ ':' :: value.write
  | (key, value) :: next :: rest =>
    writeKey key ++ ':' :: value.write ++ ',' :: writeMembers (next :: rest)

end

/-- A value as text. -/
def display (value : Json) : String :=
  String.ofList value.write

/-- An object with the given members. -/
def ofMembers (members : List (String × Json)) : Json :=
  .object (members.map fun (key, value) => (.text key, value))

/-- An integer as a value. -/
def ofInt (number : Int) : Json :=
  .number (.integer number)

end Json

end Criteria
