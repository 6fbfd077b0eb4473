import Criteria.Sorting.Merging

/-!
Sorting by runs: a list is cut into runs, and neighbouring runs are merged in a balanced way.

A run may stay unsorted as long as only unsorted runs are merged with it.
-/

namespace Criteria

namespace Sorting

/-- The most elements that are sorted as a short list. -/
def shortLength : Nat := 32

/-- Neighbouring elements of a list, in order or still to be put in order. -/
structure Run (α : Type) where
  elements : List α
  isSorted : Bool

/-- How many elements a list begins with of which each is related to the one before it. -/
def chainLength {α : Type} (related : α → α → Bool) : List α → Nat
  | [] => 0
  | [_] => 1
  | first :: second :: rest =>
    if related first second then chainLength related (second :: rest) + 1 else 1

/-- The elements in order that a list begins with, turned round if each precedes the one before. -/
def naturalRun {α : Type} (precedes : α → α → Bool) (elements : List α) : List α :=
  let falls (first second : α) : Bool := precedes second first
  match elements with
  | first :: second :: _ =>
    if falls first second then (elements.take (chainLength falls elements)).reverse
    else elements.take (chainLength (fun first second => !falls first second) elements)
  | _ => elements

/-- About the square root of a number: a power of two improved once. -/
def approximateRoot (number : Nat) : Nat :=
  let shift := (1 + Nat.log2 number) / 2
  ((1 <<< shift) + (number >>> shift)) / 2

/-- The length from which a natural run is kept, in a list of some size. -/
def worthwhileLength (size : Nat) : Nat :=
  if size ≤ 4096 then min (size - size / 2) 64 else approximateRoot size

/-- A list cut into runs: natural ones that are long enough, and elsewhere those that are made. -/
def cutRuns? {α : Type} (precedes : α → α → Bool) (least : Nat)
    (make : List α → Option (Run α)) (elements : List α) : Option (List (Run α)) :=
  match elements with
  | [] => some []
  | first :: rest => do
    let natural := naturalRun precedes (first :: rest)
    let run ←
      if least ≤ natural.length then some ⟨natural, true⟩ else make (first :: rest)
    let others ← cutRuns? precedes least make (rest.drop (run.elements.length - 1))
    some (run :: others)
termination_by elements.length
decreasing_by simp only [List.length_drop, List.length_cons]; omega

/-- The elements of a run in order. -/
def Run.sorted? {α : Type} (sort : List α → Option (List α)) (run : Run α) : Option (List α) :=
  if run.isSorted then some run.elements else sort run.elements

/-- Two neighbouring runs as one, which is sorted unless both are not. -/
def Run.join? {α : Type} (precedes : α → α → Bool) (sort : List α → Option (List α))
    (left right : Run α) : Option (Run α) :=
  if left.isSorted || right.isSorted then do
    let leftSorted ← left.sorted? sort
    let rightSorted ← right.sorted? sort
    some ⟨merge precedes leftSorted rightSorted, true⟩
  else some ⟨left.elements ++ right.elements, false⟩

/--
How high the boundary of two runs stands in a balanced tree over all positions.

The middles of the runs, scaled to the same range whatever the size of the list, part at this
binary place.
-/
def boundaryHeight (size start boundary stop : Nat) : Nat :=
  let scale := (0x4000000000000000 + size - 1) / size
  Nat.log2 (((start + boundary) * scale) ^^^ ((boundary + stop) * scale))

/-- A run joined with those waiting before it whose boundaries are not above a height. -/
def joinWaiting? {α : Type} (join : Run α → Run α → Option (Run α)) (height : Nat) :
    List (Run α × Nat) → Run α → Option (List (Run α × Nat) × Run α)
  | [], run => some ([], run)
  | (left, boundary) :: waiting, run =>
    if boundary ≤ height then do joinWaiting? join height waiting (← join left run)
    else some ((left, boundary) :: waiting, run)

/-- All runs joined, lower boundaries first; a run that waits has the height of its boundary. -/
def joinAll? {α : Type} (join : Run α → Run α → Option (Run α)) (size start : Nat)
    (waiting : List (Run α × Nat)) (run : Run α) : List (Run α) → Option (Run α)
  | [] => waiting.foldlM (fun joined (left, _) => join left joined) run
  | next :: rest => do
    let boundary := start + run.elements.length
    let height := boundaryHeight size start boundary (boundary + next.elements.length)
    let (waiting, joined) ← joinWaiting? join height waiting run
    joinAll? join size boundary ((joined, height) :: waiting) next rest

/-- The elements of neighbouring runs in order. -/
def sortRuns? {α : Type} (precedes : α → α → Bool) (sort : List α → Option (List α))
    (size : Nat) : List (Run α) → Option (List α)
  | [] => some []
  | first :: rest => do
    let whole ← joinAll? (Run.join? precedes sort) size 0 [] first rest
    whole.sorted? sort

/-- A list sorted by merging natural runs and short lists. -/
def mergeSort? {α : Type} (precedes : α → α → Bool) (elements : List α) : Option (List α) := do
  let short (rest : List α) : Option (Run α) := do
    let sorted ← sortShort? precedes (rest.take shortLength)
    some ⟨sorted, true⟩
  let runs ← cutRuns? precedes (worthwhileLength elements.length) short elements
  sortRuns? precedes some elements.length runs

end Sorting

end Criteria
