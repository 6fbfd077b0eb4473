import Criteria.Sorting.Insertion

/-!
Merging sorted lists, and sorting short lists by merging their halves.

A merge from both ends at once fails where the order contradicts itself so that the ends do not
meet.
-/

namespace Criteria

namespace Sorting

/-- Two sorted lists merged from their fronts, where the left one gives a level element first. -/
def mergeFronts {α : Type} (precedes : α → α → Bool) (left right : List α) : List α :=
  List.merge left right fun first second => !precedes second first

/-- Two sorted lists merged from their backs, where the right one gives a level element first. -/
def mergeBacks {α : Type} (precedes : α → α → Bool) (left right : List α) : List α :=
  (List.merge right.reverse left.reverse fun last other => !precedes last other).reverse

/-- Two sorted lists merged from the side of the shorter one. -/
def merge {α : Type} (precedes : α → α → Bool) (left right : List α) : List α :=
  if left.length ≤ right.length then mergeFronts precedes left right
  else mergeBacks precedes left right

/-- Two sorted lists merged half from their fronts and half from their backs, if the halves meet. -/
def mergeBothEnds? {α : Type} (precedes : α → α → Bool) (left right : List α) :
    Option (List α) :=
  let size := left.length + right.length
  -- Positions tell which elements both halves took, or neither.
  let placed := (left ++ right).zipIdx
  let earlier (first second : α × Nat) : Bool := precedes first.1 second.1
  let leftPlaced := placed.take left.length
  let rightPlaced := placed.drop left.length
  let front := (mergeFronts earlier leftPlaced rightPlaced).take (size / 2)
  let back := (mergeBacks earlier leftPlaced rightPlaced).drop (size - size / 2)
  let taken := (front ++ back).map Prod.snd
  let middle := placed.filter fun (_, position) => !taken.contains position
  let merged := front ++ middle ++ back
  if merged.length = size then some (merged.map Prod.fst) else none

/-- Four elements sorted by five comparisons; any other number of them stays as it is. -/
def sortFour {α : Type} (precedes : α → α → Bool) : List α → List α
  | [a, b, c, d] =>
    let (low, high) := if precedes b a then (b, a) else (a, b)
    let (otherLow, otherHigh) := if precedes d c then (d, c) else (c, d)
    let lowFalls := precedes otherLow low
    let highFalls := precedes otherHigh high
    let least := if lowFalls then otherLow else low
    let greatest := if highFalls then high else otherHigh
    let left := if lowFalls then low else if highFalls then otherLow else high
    let right := if highFalls then otherHigh else if lowFalls then high else otherLow
    if precedes right left then [least, right, left, greatest]
    else [least, left, right, greatest]
  | elements => elements

/-- Eight elements sorted, four and four. -/
def sortEight? {α : Type} (precedes : α → α → Bool) (elements : List α) : Option (List α) :=
  mergeBothEnds? precedes (sortFour precedes (elements.take 4))
    (sortFour precedes (elements.drop 4))

/-- Half of a short list sorted: its first elements by themselves, the others by insertion. -/
def sortHalf? {α : Type} (precedes : α → α → Bool) (size : Nat) (half : List α) :
    Option (List α) :=
  if 16 ≤ size then do
    let first ← sortEight? precedes (half.take 8)
    some (insertAll precedes first (half.drop 8))
  else if 8 ≤ size then
    some (insertAll precedes (sortFour precedes (half.take 4)) (half.drop 4))
  else some (stableSort precedes half)

/-- A short list sorted by merging its halves from both ends. -/
def sortShort? {α : Type} (precedes : α → α → Bool) (elements : List α) : Option (List α) := do
  let size := elements.length
  let left ← sortHalf? precedes size (elements.take (size / 2))
  let right ← sortHalf? precedes size (elements.drop (size / 2))
  mergeBothEnds? precedes left right

end Sorting

end Criteria
