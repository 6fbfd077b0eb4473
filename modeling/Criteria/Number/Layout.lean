import Criteria.Text.Numeral
import Criteria.Number.Double
import Criteria.Number.Shortest

/-! How the digits of a double are laid out as text. -/

namespace Criteria

/-- The choices that a written form of doubles makes beyond the digits themselves. -/
structure NumberLayout where
  /-- The least order of magnitude written with a point and no exponent. -/
  positionalFrom : Int
  /-- The least order of magnitude past the positional ones. -/
  positionalBelow : Int
  /-- Whether an exponent that is not negative carries a plus sign. -/
  plusExponent : Bool
  /-- Which of two equally near shortest decimals is written. -/
  tie : TieRule

namespace NumberLayout

/-- Digits with a point after the first `places` of them, zeros filling any gap. -/
def positional (run : List Char) (places : Int) : List Char :=
  -- The point stands before all digits, behind them all, or among them.
  if places ≤ 0 then
    '0' :: '.' :: List.replicate (-places).toNat '0' ++ run
  else if run.length ≤ places.toNat then
    run ++ List.replicate (places.toNat - run.length) '0' ++ ['.', '0']
  else
    run.take places.toNat ++ '.' :: run.drop places.toNat

/-- One digit, the others after a point if there are any, and the exponent of the first. -/
def scientific (layout : NumberLayout) (run : List Char) (order : Int) : List Char :=
  let mantissa := match run with
    | [] => []
    | [digit] => [digit]
    | digit :: others => digit :: '.' :: others
  let sign := if layout.plusExponent && 0 ≤ order then ['+'] else []
  mantissa ++ 'e' :: sign ++ Numeral.signed order

/-- A finite magnitude in the shortest digits that read back as it. -/
def magnitude (layout : NumberLayout) (rank : Nat) : List Char :=
  if rank = 0 then ['0', '.', '0']
  else
    let (coefficient, power) := Precision.double.shortest layout.tie rank
    let run := Numeral.digits coefficient
    let order := power + run.length - 1
    if layout.positionalFrom ≤ order ∧ order < layout.positionalBelow then
      positional run (order + 1)
    else
      layout.scientific run order

/-- A double as text, with a minus sign on negative numbers and on negative zero. -/
def write (layout : NumberLayout) : Double → List Char
  | .nan => ['N', 'a', 'N']
  | .signed negative rank =>
    let sign := if negative then ['-'] else []
    -- The last rank of all is that of infinity.
    if rank.val < Precision.double.infinite then sign ++ layout.magnitude rank.val
    else sign ++ ['i', 'n', 'f']

end NumberLayout

end Criteria
