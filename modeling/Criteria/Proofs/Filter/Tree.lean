import Criteria.Filter.Tree

/-! Induction over filter trees, their criteria, and their nodes in preorder. -/

namespace Criteria

/-- What holds of every criterion, and of a group whenever it holds of the children, holds of
every filter. -/
@[induction_eliminator] theorem Filter.induction {motive : Filter → Prop}
    (criterion : ∀ condition, motive (.criterion condition))
    (group : ∀ combinator children, (∀ child ∈ children, motive child) →
      motive (.group combinator children)) (filter : Filter) : motive filter := by
  -- The list of children is a tree of its own, whose members all have the property.
  refine @Filter.rec motive (fun children => ∀ child ∈ children, motive child)
    criterion group ?_ ?_ filter
  · intro child member
    cases member
  · intro first rest first_has rest_have child member
    rcases List.mem_cons.mp member with same | later
    · exact same ▸ first_has
    · exact rest_have child later

mutual

/-- The criteria of a filter, from left to right. -/
def Filter.criteria : Filter → List Criterion
  | .criterion condition => [condition]
  | .group _ children => Filter.allCriteria children

/-- The criteria of filters that stand side by side. -/
def Filter.allCriteria : List Filter → List Criterion
  | [] => []
  | child :: rest => child.criteria ++ Filter.allCriteria rest

end

/-- The criteria of a request, of which there are none without a filter. -/
def SearchRequest.criteria (request : SearchRequest) : List Criterion :=
  (request.filter.map Filter.criteria).getD []

/-- A criterion alone is the one criterion of a filter. -/
theorem Filter.mem_criteria_self (condition : Criterion) :
    condition ∈ (Filter.criterion condition).criteria := by
  rw [criteria]
  exact List.mem_singleton_self condition

/-- The criteria of filters that stand side by side are those of each of them in turn. -/
theorem Filter.allCriteria_eq_flatMap (filters : List Filter) :
    Filter.allCriteria filters = filters.flatMap Filter.criteria := by
  -- The list is gone through as the function itself does.
  induction filters with
  | nil => rfl
  | cons first rest ih => rw [allCriteria, ih, List.flatMap_cons]

/-- The criteria of a child are criteria of its group. -/
theorem Filter.mem_criteria_of_child {condition : Criterion} {combinator : Combinator}
    {children : List Filter} {child : Filter} (member : child ∈ children)
    (within : condition ∈ child.criteria) : condition ∈ (group combinator children).criteria := by
  -- The criteria of the group are those of its children in turn.
  rw [criteria, allCriteria_eq_flatMap]
  exact List.mem_flatMap.mpr ⟨child, member, within⟩

mutual

/-- How many levels of nodes a filter has. -/
def Filter.depth : Filter → Nat
  | .criterion _ => 1
  | .group _ children => Filter.depths children + 1

/-- How many levels of nodes the deepest filter of a list has. -/
def Filter.depths : List Filter → Nat
  | [] => 0
  | child :: rest => max child.depth (Filter.depths rest)

end

/-- The deepest filter of a list is within a bound if every filter of the list is. -/
theorem Filter.depths_le_iff {filters : List Filter} {bound : Nat} :
    Filter.depths filters ≤ bound ↔ ∀ filter ∈ filters, filter.depth ≤ bound := by
  -- The deepest of some filters is the deeper one of the first and of the others.
  induction filters with
  | nil => simp [depths]
  | cons first rest ih => rw [depths, Nat.max_le, ih, List.forall_mem_cons]

/-- A filter of a list is no deeper than the deepest of them. -/
theorem Filter.depth_le_depths {filters : List Filter} {filter : Filter}
    (member : filter ∈ filters) : filter.depth ≤ Filter.depths filters :=
  -- The deepest filter bounds itself, and so all of them.
  depths_le_iff.mp (Nat.le_refl _) filter member

mutual

/-- The nodes of a filter that stands at some depth, each with its own depth: a node before its
children, and these from left to right. -/
def Filter.preorder (depth : Nat) : Filter → List (Nat × Filter)
  | .criterion condition => [(depth, .criterion condition)]
  | .group combinator children =>
    (depth, .group combinator children) :: Filter.preorders (depth + 1) children

/-- The nodes of filters that stand side by side at some depth. -/
def Filter.preorders (depth : Nat) : List Filter → List (Nat × Filter)
  | [] => []
  | child :: rest => child.preorder depth ++ Filter.preorders depth rest

end

/-- The nodes of filters that stand side by side are those of each filter in turn. -/
theorem Filter.preorders_eq_flatMap (depth : Nat) (filters : List Filter) :
    Filter.preorders depth filters = filters.flatMap (Filter.preorder depth) := by
  -- The list is gone through as the function itself does.
  induction filters with
  | nil => rfl
  | cons child rest ih => rw [preorders, List.flatMap_cons, ih]

end Criteria
