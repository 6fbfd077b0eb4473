import Criteria.Sorting.Runs

/-! Sorting by partition around pivots, in which every part keeps the order it came in. -/

namespace Criteria

namespace Sorting

/-- Which of three positions holds the middle element. -/
def middlePosition (earlier : Nat → Nat → Bool) (first second third : Nat) : Nat :=
  if earlier first second = earlier first third then
    if earlier second third = earlier first second then second else third
  else first

/-- The position of a middle element of three, each of them a middle one too where there is room. -/
def pivotPosition (earlier : Nat → Nat → Bool) (first second third width : Nat) : Nat :=
  if 8 ≤ width then
    let step := width / 8
    let pick (start : Nat) : Nat :=
      pivotPosition earlier start (start + 4 * step) (start + 7 * step) step
    middlePosition earlier (pick first) (pick second) (pick third)
  else middlePosition earlier first second third
termination_by width

/--
A list sorted by partition, in so many rounds at most and by merging after them.

Nothing in the list precedes the floor; a pivot level with it is set apart with all its equals.
-/
def partitionSort? {α : Type} (precedes : α → α → Bool) :
    Nat → Option α → List α → Option (List α)
  | 0, _, elements =>
    if elements.length ≤ shortLength then sortShort? precedes elements
    else mergeSort? precedes elements
  | rounds + 1, floor, elements =>
    if elements.length ≤ shortLength then sortShort? precedes elements
    else match elements with
    | [] => some []
    | head :: _ =>
      let element (position : Nat) : α := elements.getD position head
      let eighth := elements.length / 8
      let chosen := pivotPosition
        (fun first second => precedes (element first) (element second))
        0 (4 * eighth) (7 * eighth) eighth
      let pivot := element chosen
      let (low, high) := elements.zipIdx.partition fun (candidate, position) =>
        position ≠ chosen && precedes candidate pivot
      let isFloor := floor.any fun least => !precedes least pivot
      if isFloor || low.isEmpty then do
        let (level, above) := elements.zipIdx.partition fun (candidate, position) =>
          position = chosen || !precedes pivot candidate
        let sorted ← partitionSort? precedes rounds none (above.map Prod.fst)
        some (level.map Prod.fst ++ sorted)
      else do
        let upper ← partitionSort? precedes rounds (some pivot) (high.map Prod.fst)
        let lower ← partitionSort? precedes rounds floor (low.map Prod.fst)
        some (lower ++ upper)

end Sorting

end Criteria
