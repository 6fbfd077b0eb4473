/-! Binary floating formats: their magnitudes in ascending order, and rounding to the nearest one. -/

namespace Criteria

/--
A binary floating format, by its non-negative magnitudes in ascending order.

The rank of a magnitude is its position in that order, zero having rank zero.
-/
structure Precision where
  /-- How many bits a significand has. -/
  bits : Nat
  /-- The power of two that the least positive magnitude is. -/
  finest : Int
  /-- The rank of infinity. -/
  infinite : Nat

namespace Precision

/-- The format of 64 bits. -/
def double : Precision := ⟨53, -1074, 2047 * Nat.pow 2 52⟩

/-- The format of 32 bits. -/
def single : Precision := ⟨24, -149, 255 * Nat.pow 2 23⟩

/-- How many magnitudes share one power of two once the significand is full. -/
def binade (format : Precision) : Nat :=
  Nat.pow 2 (format.bits - 1)

/-- The whole number that a finite magnitude is a multiple of its power of two by. -/
def significand (format : Precision) (rank : Nat) : Nat :=
  if rank < format.binade then rank else format.binade + rank % format.binade

/-- The power of two that a finite magnitude is a multiple of. -/
def exponent (format : Precision) (rank : Nat) : Int :=
  if rank < format.binade then format.finest
  else format.finest + (rank / format.binade : Nat) - 1

/-- A quotient rounded to the nearest whole number, a half going to the even one. -/
def roundHalfEven (numerator denominator : Nat) : Nat :=
  let quotient := numerator / denominator
  let remainder := numerator % denominator
  if 2 * remainder < denominator then quotient
  else if denominator < 2 * remainder then quotient + 1
  -- Exactly half way, an odd quotient goes up and an even one stays.
  else quotient + quotient % 2

/-- The greatest power of two that does not exceed a positive quotient. -/
def binaryOrder (numerator denominator : Nat) : Int :=
  let guess : Int := (Nat.log2 numerator : Int) - Nat.log2 denominator
  -- The logarithms of both parts fix the order up to one step.
  if denominator * Nat.pow 2 guess.toNat ≤ numerator * Nat.pow 2 (-guess).toNat then guess
  else guess - 1

/--
The rank of the magnitude nearest to a quotient, a half going to the even rank.

A significand that rounds up to the next power of two carries into the rank of that power.
-/
def nearest (format : Precision) (numerator denominator : Nat) : Nat :=
  if numerator = 0 then 0
  else
    -- Small magnitudes lie on the finest grid, and others on that of their highest bit.
    let grid : Int :=
      max format.finest (binaryOrder numerator denominator - (format.bits - 1 : Nat))
    let significand :=
      roundHalfEven (numerator * Nat.pow 2 (-grid).toNat) (denominator * Nat.pow 2 grid.toNat)
    min format.infinite ((grid - format.finest).toNat * format.binade + significand)

/--
The rank of the magnitude nearest to a coefficient times a power of ten.

No format here reaches beyond 310 digits before the point or 330 zeros after it,
so such quotients are settled without writing the power out.
-/
def nearestDecimal (format : Precision) (coefficient : Nat) (power : Int) : Nat :=
  let leadingPlace : Int := (Nat.toDigits 10 coefficient).length + power
  if coefficient = 0 then 0
  else if 310 < leadingPlace then format.infinite
  else if leadingPlace < -330 then 0
  else format.nearest (coefficient * Nat.pow 10 power.toNat) (Nat.pow 10 (-power).toNat)

/-- The nearest rank never passes that of infinity. -/
theorem nearest_le (format : Precision) (numerator denominator : Nat) :
    format.nearest numerator denominator ≤ format.infinite := by
  -- Zero is the least rank, and all others are cut at infinity.
  unfold nearest
  split
  · exact Nat.zero_le _
  · exact Nat.min_le_left _ _

end Precision

end Criteria
