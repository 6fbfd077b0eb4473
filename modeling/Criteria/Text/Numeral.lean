/-! Decimal numerals: whole numbers written with the digits 0 to 9, and read back. -/

namespace Criteria.Numeral

/-- The shortest decimal numeral of a whole number. -/
def digits (number : Nat) : List Char :=
  Nat.toDigits 10 number

/-- A numeral widened to at least `width` digits with zeros on the left. -/
def padded (width number : Nat) : List Char :=
  List.replicate (width - (digits number).length) '0' ++ digits number

/-- The number that a run of digits denotes, leading zeros included. -/
def value (run : List Char) : Nat :=
  Nat.ofDigitChars 10 run 0

/-- The number that a text denotes when it is one or more digits and nothing else. -/
def natural? (text : List Char) : Option Nat :=
  if text.isEmpty || !text.all Char.isDigit then none else some (value text)

/-- The integer that a text denotes when it is an optional sign and one or more digits. -/
def integer? : List Char → Option Int
  | '-' :: rest => (natural? rest).map fun magnitude => -(magnitude : Int)
  | '+' :: rest => (natural? rest).map fun magnitude => (magnitude : Int)
  | text => (natural? text).map fun magnitude => (magnitude : Int)

/-- An integer in decimal, with a minus sign exactly when it is negative. -/
def signed (number : Int) : List Char :=
  if number < 0 then '-' :: digits number.natAbs else digits number.natAbs

/-- At most `width` leading digits of a text, with what follows them. -/
def leading : Nat → List Char → List Char × List Char
  | 0, text => ([], text)
  | _ + 1, [] => ([], [])
  | width + 1, c :: rest =>
    if c.isDigit then
      let (run, remaining) := leading width rest
      (c :: run, remaining)
    else
      ([], c :: rest)

end Criteria.Numeral
