import Criteria.Text.Unprintable

/-! Texts as a description shows them: between double quotes, with escapes. -/

namespace Criteria

/-- A number in lower-case hexadecimal digits. -/
def hexDigits (number : Nat) : List Char :=
  Nat.toDigits 16 number

/-- One character inside double quotes. -/
def describeChar (c : Char) : List Char :=
  if c = '\x00' then ['\\', '0']
  else if c = '\t' then ['\\', 't']
  else if c = '\n' then ['\\', 'n']
  else if c = '\r' then ['\\', 'r']
  else if c = '"' then ['\\', '"']
  else if c = '\\' then ['\\', '\\']
  -- Escapes by code point have their digits between braces.
  else if isUnprintable c then "\\u\x7b".toList ++ hexDigits c.toNat ++ ['}']
  else [c]

/-- A text between double quotes, unprintable characters shown by their code points. -/
def describeText (content : String) : String :=
  String.ofList ('"' :: content.toList.flatMap describeChar ++ ['"'])

end Criteria
