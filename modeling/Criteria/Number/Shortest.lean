import Criteria.Number.Precision

/-! The shortest decimal that reads back as a given magnitude. -/

namespace Criteria

/-- Which of two equally near decimals is taken. -/
inductive TieRule where
  | upward
  | toEven
deriving DecidableEq

/--
The decimals that round to one positive finite magnitude, and the magnitude itself.

All three are whole multiples of a quarter of the magnitude's power of two.
-/
structure Neighbourhood where
  /-- The power of two that the quarter steps count in. -/
  power : Int
  low : Nat
  exact : Nat
  high : Nat
  /-- Whether both ends round to the magnitude as well. -/
  closed : Bool

namespace Neighbourhood

/-- The numbers that round to a positive finite magnitude, halves going to the even significand. -/
def ofRank (format : Precision) (rank : Nat) : Neighbourhood :=
  let significand := format.significand rank
  let power := format.exponent rank
  -- Below a power of two the magnitudes lie half as far apart as above it.
  let narrow := significand = format.binade ∧ format.finest < power
  { power := power - 2
    low := 4 * significand - if narrow then 1 else 2
    exact := 4 * significand
    high := 4 * significand + 2
    closed := significand % 2 = 0 }

/--
The multiple of a power of ten that is nearest to the magnitude among those that read back as it.

A multiple and a quarter step are compared by bringing both to whole numbers.
-/
def nearestOnGrid? (near : Neighbourhood) (tie : TieRule) (grid : Int) : Option Nat :=
  let step := Nat.pow 10 grid.toNat * Nat.pow 2 (-near.power).toNat
  let quarter := Nat.pow 2 near.power.toNat * Nat.pow 10 (-grid).toNat
  let inside (multiple : Nat) : Bool :=
    if near.closed then
      near.low * quarter ≤ multiple * step && multiple * step ≤ near.high * quarter
    else
      near.low * quarter < multiple * step && multiple * step < near.high * quarter
  let below := near.exact * quarter / step
  let above := below + 1
  match inside below, inside above with
  | false, false => none
  | true, false => some below
  | false, true => some above
  | true, true =>
    -- The midpoint of the two candidates decides, and on it the rule for ties.
    if 2 * (near.exact * quarter) < (below + above) * step then some below
    else if (below + above) * step < 2 * (near.exact * quarter) then some above
    else match tie with
      | .upward => some above
      | .toEven => some (below + below % 2)

/-- The coarsest grid of powers of ten that holds a decimal reading back, tried from coarse to fine. -/
def search (near : Neighbourhood) (tie : TieRule) : Nat → Nat × Int
  | 0 =>
    -- The magnitude written out in full always reads back.
    (near.exact * Nat.pow 2 near.power.toNat * Nat.pow 5 (-near.power).toNat, min near.power 0)
  | level + 1 =>
    let grid : Int := (level : Int) - 343
    match near.nearestOnGrid? tie grid with
    | some multiple => (multiple, grid)
    | none => near.search tie level

/-- A level of the search whose grid is coarser than the magnitude itself. -/
def start (near : Neighbourhood) : Nat :=
  -- A power of two has at most three tenths and a bit as many decimal places as binary ones.
  let order : Int := near.power + Nat.log2 near.high + 1
  (order * 30103 / 100000 + 346).toNat

end Neighbourhood

/--
The shortest decimal that reads back as a positive finite magnitude: coefficient and power of ten.

Of several shortest ones it is the nearest.
-/
def Precision.shortest (format : Precision) (tie : TieRule) (rank : Nat) : Nat × Int :=
  let near := Neighbourhood.ofRank format rank
  near.search tie near.start

end Criteria
