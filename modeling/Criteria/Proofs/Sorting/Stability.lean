import Criteria.Proofs.Sorting.Permutation

/-! An order without contradictions sorts, and elements that it has level stay as they were. -/

namespace Criteria

namespace Sorting

variable {α β : Type} {precedes : α → α → Bool}

section Insertion

variable {before : α → α → Prop}

/-- Two elements, the first of which was there first, belong as the order puts them. -/
def Settles (precedes : α → α → Bool) (before : α → α → Prop) (first second : α) : Prop :=
  if precedes second first then before second first else before first second

/-- An element inserted into a list sorted downwards leaves it sorted downwards. -/
theorem insertFromEnd_pairwise (trans : ∀ a b c, before a b → before b c → before a c)
    {element : α} {placed : List α}
    (sorted : placed.Pairwise fun later earlier => before earlier later)
    (settled : ∀ other ∈ placed, Settles precedes before other element) :
    (insertFromEnd precedes element placed).Pairwise fun later earlier => before earlier later := by
  -- The element goes up past all that it comes before, and the rest is as it was.
  induction placed with
  | nil => exact List.pairwise_singleton _ _
  | cons last rest ih =>
    obtain ⟨below, sortedRest⟩ := List.pairwise_cons.mp sorted
    have settledLast := settled last List.mem_cons_self
    rw [insertFromEnd]
    unfold Settles at settledLast
    split at settledLast
    · -- The last element stays last: the others were below it, and so is the new one.
      rename_i first
      rw [if_pos first]
      refine List.pairwise_cons.mpr ⟨?_, ih sortedRest fun other member =>
        settled other (List.mem_cons_of_mem last member)⟩
      intro other member
      -- What is below the last element is the new one, or was below it before.
      rcases List.mem_cons.mp ((insertFromEnd_perm element rest).mem_iff.mp member) with same | old
      · rw [same]
        exact settledLast
      · exact below other old
    · -- The element comes after the last one, and so after all that is below that.
      rename_i later
      rw [if_neg later]
      refine List.pairwise_cons.mpr ⟨?_, sorted⟩
      intro other member
      rcases List.mem_cons.mp member with same | old
      · rw [same]
        exact settledLast
      · exact trans _ _ _ (below other old) settledLast

/-- Elements inserted one after the other leave a list sorted downwards. -/
theorem foldl_insertFromEnd_pairwise (trans : ∀ a b c, before a b → before b c → before a c)
    {placed elements : List α} (sorted : placed.Pairwise fun later earlier => before earlier later)
    (apart : ∀ other ∈ placed, ∀ element ∈ elements, Settles precedes before other element)
    (within : elements.Pairwise (Settles precedes before)) :
    (elements.foldl (fun placed element => insertFromEnd precedes element placed) placed).Pairwise
      fun later earlier => before earlier later := by
  -- The elements are placed in turn, and those to come belong behind all that is placed.
  induction elements generalizing placed with
  | nil => exact sorted
  | cons element rest ih =>
    obtain ⟨next, withinRest⟩ := List.pairwise_cons.mp within
    have inserted := insertFromEnd_pairwise trans sorted fun other member =>
      apart other member element List.mem_cons_self
    refine ih inserted ?_ withinRest
    -- What is placed now is the new element and what was placed before.
    intro other member later laterMember
    rcases List.mem_cons.mp ((insertFromEnd_perm element placed).mem_iff.mp member) with same | old
    · rw [same]
      exact next later laterMember
    · exact apart other old later (List.mem_cons_of_mem element laterMember)

/-- Sorting by insertion puts all elements as the order puts any two of them. -/
theorem stableSort_pairwise (trans : ∀ a b c, before a b → before b c → before a c)
    {elements : List α} (settled : elements.Pairwise (Settles precedes before)) :
    (stableSort precedes elements).Pairwise before := by
  -- Elements are placed downwards, and turned round at the end.
  have downwards := foldl_insertFromEnd_pairwise trans List.Pairwise.nil
    (fun other member => absurd member List.not_mem_nil) settled
  exact List.pairwise_reverse.mpr downwards

/-- Inserting the image of an element is the image of inserting it. -/
theorem insertFromEnd_map (image : β → α) (element : β) (placed : List β) :
    insertFromEnd precedes (image element) (placed.map image) =
      (insertFromEnd (fun left right => precedes (image left) (image right)) element placed).map
        image := by
  -- The comparisons are the same, so the place is the same.
  induction placed with
  | nil => rfl
  | cons last rest ih =>
    simp only [List.map_cons, insertFromEnd]
    split
    · rw [ih, List.map_cons]
    · rfl

/-- Sorting images is sorting what they are images of. -/
theorem stableSort_map (image : β → α) (elements : List β) :
    stableSort precedes (elements.map image) =
      (stableSort (fun left right => precedes (image left) (image right)) elements).map image := by
  -- The list under construction is the image of the one there would be below.
  have placing (placed : List β) :
      (elements.map image).foldl (fun placed element => insertFromEnd precedes element placed)
          (placed.map image) =
        (elements.foldl (fun placed element => insertFromEnd
          (fun left right => precedes (image left) (image right)) element placed) placed).map
            image := by
    induction elements generalizing placed with
    | nil => rfl
    | cons element rest ih =>
      rw [List.map_cons, List.foldl_cons, List.foldl_cons, insertFromEnd_map]
      exact ih _
  unfold stableSort insertAll
  -- Sorting starts from the empty list, which is its own image.
  rw [List.map_reverse]
  exact congrArg List.reverse (placing [])

end Insertion

section Ranking

variable {order : α → α → Ordering} {elements : List α}

/-- An order contradicts itself on none of some elements. -/
structure Ranks (order : α → α → Ordering) (elements : List α) : Prop where
  swap : ∀ left ∈ elements, ∀ right ∈ elements, order right left = (order left right).swap
  trans : ∀ left ∈ elements, ∀ middle ∈ elements, ∀ right ∈ elements,
    order left middle ≠ .gt → order middle right ≠ .gt → order left right ≠ .gt

/-- An order that agrees on some elements with one free of contradictions contradicts itself on
none of them. -/
theorem Ranks.of_agree {lawful : α → α → Ordering} [Std.TransCmp lawful]
    (agree : ∀ left ∈ elements, ∀ right ∈ elements, order left right = lawful left right) :
    Ranks order elements where
  -- Each comparison of two of the elements is made by the lawful order instead.
  swap left leftMember right rightMember := by
    rw [agree right rightMember left leftMember, agree left leftMember right rightMember]
    exact Std.OrientedCmp.eq_swap
  trans left leftMember middle middleMember right rightMember := by
    rw [agree left leftMember middle middleMember, agree middle middleMember right rightMember,
      agree left leftMember right rightMember]
    simp only [ne_eq, ← Ordering.isLE_iff_ne_gt]
    exact Std.TransCmp.isLE_trans

/-- Whatever comes before an element comes before all that are not before that element. -/
theorem Ranks.lt_of_lt (ranks : Ranks order elements) {other left right : α}
    (otherMember : other ∈ elements) (leftMember : left ∈ elements)
    (rightMember : right ∈ elements) (least : order other left = .lt)
    (level : order left right ≠ .gt) : order other right = .lt := by
  -- Swapped, the orders tell how the left and the right element stand to the other one.
  have back := ranks.swap other otherMember left leftMember
  rw [least] at back
  have turned := ranks.swap other otherMember right rightMember
  -- Otherwise the left element would not come after the other one.
  by_contra later
  have notAfter : order right other ≠ .gt := by
    rw [turned]
    cases placed : order other right with
    | lt => exact absurd placed later
    | eq | gt => simp
  exact ranks.trans left leftMember right rightMember other otherMember level notAfter back

/-- A test that passes wherever another does, and once more, passes more often. -/
theorem countP_lt_countP {test wider : α → Bool}
    (implies : ∀ element ∈ elements, test element = true → wider element = true) {once : α}
    (member : once ∈ elements) (passes : wider once = true) (fails : test once = false) :
    elements.countP test < elements.countP wider := by
  -- Up to the element and behind it the wider test passes no less often, and at it once more.
  obtain ⟨start, stop, rfl⟩ := List.append_of_mem member
  have before := List.countP_mono_left fun element (inStart : element ∈ start) =>
    implies element (List.mem_append_left _ inStart)
  have after := List.countP_mono_left fun element (inStop : element ∈ stop) =>
    implies element (List.mem_append_right _ (List.mem_cons_of_mem once inStop))
  rw [List.countP_append, List.countP_append, List.countP_cons_of_pos passes,
    List.countP_cons_of_neg (by simp [fails])]
  omega

/-- Fewer elements come before one of two just when that one comes before the other. -/
theorem Ranks.rank_lt_rank_iff (ranks : Ranks order elements) {left right : α}
    (leftMember : left ∈ elements) (rightMember : right ∈ elements) :
    rank (fun left right => order left right = .lt) elements left <
        rank (fun left right => order left right = .lt) elements right ↔
      order left right = .lt := by
  -- The rank of an element is the number of those before it.
  unfold rank
  constructor
  · intro fewer
    -- If the left element did not come before the right one, all before that would be before it.
    by_contra notBefore
    have notAfter : order right left ≠ .gt := by
      rw [ranks.swap left leftMember right rightMember]
      cases placed : order left right with
      | lt => exact absurd placed notBefore
      | eq | gt => simp
    refine absurd fewer (Nat.not_lt.mpr (List.countP_mono_left ?_))
    intro other member least
    rw [decide_eq_true_eq] at least ⊢
    exact ranks.lt_of_lt member rightMember leftMember least notAfter
  · intro first
    have level : order left right ≠ .gt := by simp [first]
    -- All that comes before the left element comes before the right one.
    have kept (other : α) (member : other ∈ elements) :
        decide (order other left = .lt) = true → decide (order other right = .lt) = true := by
      rw [decide_eq_true_eq, decide_eq_true_eq]
      intro least
      exact ranks.lt_of_lt member leftMember rightMember least level
    -- The left element itself comes before the right one, but not before itself.
    have itself : order left left ≠ .lt := by
      intro least
      have turned := ranks.swap left leftMember left leftMember
      rw [least] at turned
      cases turned
    exact countP_lt_countP kept leftMember (decide_eq_true first) (decide_eq_false itself)

/-- An order without contradictions ranks the elements. -/
theorem Ranks.isRanking (ranks : Ranks order elements) :
    isRanking (fun left right => order left right = .lt) elements = true := by
  -- Ranks are compared for every two elements, and each time the order says the same.
  simp only [Sorting.isRanking, List.all_eq_true, List.forall_mem_map, decide_eq_true_eq]
  intro left leftMember right rightMember
  rw [decide_eq_decide]
  exact (ranks.rank_lt_rank_iff leftMember rightMember).symm

/-- Elements that come in an order of their own are sorted by another order, and where that has them
level, by their own. -/
theorem stableSort_pairwise_compareLex {lawful own : α → α → Ordering} [Std.TransCmp lawful]
    [Std.TransCmp own]
    (agree : ∀ left ∈ elements, ∀ right ∈ elements, order left right = lawful left right)
    (ascending : elements.Pairwise fun first second => own first second = .lt) :
    (stableSort (fun left right => order left right = .lt) elements).Pairwise
      fun first second => compareLex lawful own first second = .lt := by
  -- Of two elements, the one that is there first comes first unless the order says otherwise.
  refine stableSort_pairwise (fun _ _ _ => Std.TransCmp.lt_trans) ?_
  refine ascending.imp_of_mem ?_
  intro first second firstMember secondMember before
  unfold Settles compareLex
  simp only [agree second secondMember first firstMember, decide_eq_true_eq]
  split
  · rename_i falls
    rw [falls]
    rfl
  · -- The second does not come before the first, so it comes after it or is level with it.
    rename_i stays
    rw [← Std.OrientedCmp.gt_iff_lt] at stays
    rw [before, Ordering.then_eq_lt]
    cases placed : lawful first second with
    | lt => exact Or.inl rfl
    | eq => exact Or.inr ⟨rfl, rfl⟩
    | gt => exact absurd placed stays

/-- An order without contradictions sorts as insertion does, however many elements there are. -/
theorem Ranks.sort?_eq (ranks : Ranks order elements) :
    sort? (fun left right => order left right = .lt) elements =
      some (stableSort (fun left right => order left right = .lt) elements) := by
  -- Orders that rank the elements are left to insertion at any length.
  unfold sort?
  rw [ranks.isRanking, Bool.or_true, if_pos rfl]

/-- Sorting comes to no end only on many elements and under an order that contradicts itself. -/
theorem sort?_eq_none (fails : sort? (fun left right => order left right = .lt) elements = none) :
    20 < elements.length ∧ ¬Ranks order elements := by
  -- Insertion never fails, and it is what sorts few elements and orders without contradictions.
  constructor
  · by_contra few
    simp [sort?, Nat.not_lt.mp few] at fails
  · intro ranks
    rw [ranks.sort?_eq] at fails
    cases fails

end Ranking

end Sorting

end Criteria
