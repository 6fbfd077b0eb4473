import Criteria.Text.Numeral
import Criteria.Number.Double

/-! Reading floating point numerals. -/

namespace Criteria

/-- A decimal number, coefficient times a power of ten, its sign kept apart so that zero has one. -/
structure Decimal where
  negative : Bool
  coefficient : Nat
  power : Int
deriving DecidableEq

namespace Decimal

/-- The double nearest to a decimal. -/
def toDouble (number : Decimal) : Double :=
  .ofRank number.negative (Precision.double.nearestDecimal number.coefficient number.power)

/-- The single precision number nearest to a decimal, widened to a double. -/
def toSingle (number : Decimal) : Double :=
  .ofSingleRank number.negative (Precision.single.nearestDecimal number.coefficient number.power)

/-- A whole part, a fraction and an exponent put together. -/
def ofParts (negative : Bool) (whole fraction : List Char) (exponent : Int) : Decimal :=
  ⟨negative, Numeral.value (whole ++ fraction), exponent - fraction.length⟩

end Decimal

/-- A floating point numeral: a special name or a decimal. -/
inductive FloatNumeral where
  | notANumber
  | infinite (negative : Bool)
  | finite (number : Decimal)
deriving DecidableEq

namespace FloatNumeral

/-- The double that a numeral denotes, rounded to nearest. -/
def toDouble : FloatNumeral → Double
  | .notANumber => .nan
  | .infinite negative => .ofRank negative Precision.double.infinite
  | .finite number => number.toDouble

/-- The single precision number that a numeral denotes, rounded to nearest and then widened. -/
def toSingle : FloatNumeral → Double
  | .notANumber => .nan
  | .infinite negative => .ofRank negative Precision.double.infinite
  | .finite number => number.toSingle

/-- The exponent part of a numeral: nothing, or the letter e and an integer. -/
def exponent? : List Char → Option Int
  | [] => some 0
  | c :: rest => if c = 'e' ∨ c = 'E' then Numeral.integer? rest else none

/-- A numeral without its sign: a name in any case, or digits with an optional point and exponent. -/
def unsigned? (negative : Bool) (text : List Char) : Option FloatNumeral :=
  let name := text.map Char.toLower
  if name = ['n', 'a', 'n'] then some .notANumber
  else if name = ['i', 'n', 'f'] ∨ name = ['i', 'n', 'f', 'i', 'n', 'i', 't', 'y'] then
    some (.infinite negative)
  else
    let whole := text.takeWhile Char.isDigit
    let afterWhole := text.dropWhile Char.isDigit
    -- A point may stand anywhere among the digits, and need not be followed by one.
    let fractional := match afterWhole with
      | '.' :: rest => rest
      | _ => []
    let fraction := fractional.takeWhile Char.isDigit
    let afterFraction := match afterWhole with
      | '.' :: rest => rest.dropWhile Char.isDigit
      | rest => rest
    -- A point alone is no number.
    if whole.isEmpty && fraction.isEmpty then none
    else
      (exponent? afterFraction).map fun exponent =>
        .finite (.ofParts negative whole fraction exponent)

/-- The numeral that a whole text is. -/
def ofText? : List Char → Option FloatNumeral
  | '-' :: rest => unsigned? true rest
  | '+' :: rest => unsigned? false rest
  | text => unsigned? false text

end FloatNumeral

end Criteria
