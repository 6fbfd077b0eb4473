import Criteria.Number.Precision

/-! Double precision numbers, told apart by sign and by the rank of their magnitude. -/

namespace Criteria

/-- A double: not a number, or a sign with the rank of a magnitude, infinity having the last rank. -/
inductive Double where
  | nan
  | signed (negative : Bool) (rank : Fin (Precision.double.infinite + 1))
deriving DecidableEq

namespace Double

/-- A double from a sign and a rank, ranks past the last meaning infinity. -/
def ofRank (negative : Bool) (rank : Nat) : Double :=
  .signed negative ⟨min Precision.double.infinite rank, by omega⟩

/-- Positive zero. -/
def zero : Double := ofRank false 0

/--
The place of a number on the line, negative numbers below zero.

Ranks grow with magnitudes, so places compare as the numbers do, and both zeros have place zero.
-/
def place? : Double → Option Int
  | .nan => none
  | .signed false rank => some rank.val
  -- Minus zero is zero.
  | .signed true rank => some (-(rank.val : Int))

/-- The order of two doubles, undefined when one of them is not a number. -/
def compare? (left right : Double) : Option Ordering :=
  match left.place?, right.place? with
  | some below, some above => some (compare below above)
  | _, _ => none

/-- Whether a double is neither infinite nor undefined. -/
def isFinite : Double → Bool
  | .nan => false
  | .signed _ rank => rank.val < Precision.double.infinite

/-- The double nearest to an integer. -/
def ofInt (number : Int) : Double :=
  ofRank (number < 0) (Precision.double.nearest number.natAbs 1)

/-- The double nearest to the quotient of two whole numbers. -/
def ofQuotient (numerator denominator : Nat) : Double :=
  ofRank false (Precision.double.nearest numerator denominator)

/-- The quotient of two finite doubles that are not negative, the second of them positive. -/
def ratio (numerator denominator : Nat) : Double :=
  let top := Precision.double.nearest numerator 1
  let bottom := Precision.double.nearest denominator 1
  -- Both are multiples of powers of two, whose quotient is one again.
  let shift := Precision.double.exponent top - Precision.double.exponent bottom
  ofQuotient (Precision.double.significand top * Nat.pow 2 shift.toNat)
    (Precision.double.significand bottom * Nat.pow 2 (-shift).toNat)

/-- The double that equals a magnitude of single precision. -/
def ofSingleRank (negative : Bool) (rank : Nat) : Double :=
  if rank < Precision.single.infinite then
    let power := Precision.single.exponent rank
    ofRank negative <|
      Precision.double.nearest (Precision.single.significand rank * Nat.pow 2 power.toNat)
        (Nat.pow 2 (-power).toNat)
  else
    ofRank negative Precision.double.infinite

end Double

end Criteria
