import Criteria.Sorting.Partition

/-! Stable sorting under any order, also one that contradicts itself. -/

namespace Criteria

namespace Sorting

/-- The rounds of partition that a list of some size may take. -/
def partitionRounds (size : Nat) : Nat :=
  2 * Nat.log2 size

/-- A list sorted by natural runs, and elsewhere by merging or, if it is long, by partition. -/
def adaptiveSort? {α : Type} (precedes : α → α → Bool) (elements : List α) :
    Option (List α) :=
  if elements.length ≤ 2 * shortLength then mergeSort? precedes elements
  else do
    let least := worthwhileLength elements.length
    let runs ← cutRuns? precedes least (fun rest => some ⟨rest.take least, false⟩) elements
    let sort (part : List α) : Option (List α) :=
      partitionSort? precedes (partitionRounds part.length) none part
    sortRuns? precedes sort elements.length runs

/--
Elements sorted so that level ones stay as they were, or none if the order is seen to fail.

An order that ranks the elements leaves nothing to choose. Under any other one the result hangs
on which elements are compared: insertion compares those of a short list, the adaptive sort the
others.
-/
def sort? {α : Type} (precedes : α → α → Bool) (elements : List α) : Option (List α) :=
  if elements.length ≤ 20 || isRanking precedes elements then
    some (stableSort precedes elements)
  else adaptiveSort? precedes elements

end Sorting

end Criteria
