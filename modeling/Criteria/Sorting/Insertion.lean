/-! Sorting by insertion, and the orders under which every stable sort gives the same. -/

namespace Criteria

namespace Sorting

/-- An element put behind the last one that it does not come before, in a list sorted downwards. -/
def insertFromEnd {α : Type} (precedes : α → α → Bool) (element : α) : List α → List α
  | [] => [element]
  | last :: rest =>
    if precedes element last then last :: insertFromEnd precedes element rest
    else element :: last :: rest

/-- Elements inserted one after the other into a list that is sorted already. -/
def insertAll {α : Type} (precedes : α → α → Bool) (sorted elements : List α) : List α :=
  let downwards := elements.foldl (fun placed element => insertFromEnd precedes element placed)
    sorted.reverse
  downwards.reverse

/-- Elements in order, those that are level staying as they were. -/
def stableSort {α : Type} (precedes : α → α → Bool) (elements : List α) : List α :=
  insertAll precedes [] elements

/-- How many of some elements come before one. -/
def rank {α : Type} (precedes : α → α → Bool) (elements : List α) (element : α) : Nat :=
  elements.countP fun other => precedes other element

/--
Whether an order ranks some elements: one comes before another just when fewer come before it.

Being level is then an equivalence, and there is one sorted list that leaves level elements as
they were.
-/
def isRanking {α : Type} (precedes : α → α → Bool) (elements : List α) : Bool :=
  let ranked := elements.map fun element => (element, rank precedes elements element)
  ranked.all fun (left, leftRank) => ranked.all fun (right, rightRank) =>
    precedes left right = decide (leftRank < rightRank)

end Sorting

end Criteria
