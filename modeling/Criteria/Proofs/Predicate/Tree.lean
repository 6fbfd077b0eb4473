import Criteria.Predicate.Basic
import Mathlib.Order.Basic

/-! Predicates as trees: their nodes, their depth, and induction over them. -/

namespace Criteria

/-- What holds of every test, and of a combination whenever it holds of the parts, holds of every
predicate. -/
@[induction_eliminator] theorem Predicate.induction {motive : Predicate → Prop}
    (always : motive .always) (never : motive .never)
    (and : ∀ children, (∀ child ∈ children, motive child) → motive (.and children))
    (or : ∀ children, (∀ child ∈ children, motive child) → motive (.or children))
    (not : ∀ child, motive child → motive (.not child))
    (compare : ∀ path comparison value, motive (.compare path comparison value))
    (between : ∀ path low high, motive (.between path low high))
    (like : ∀ path pattern, motive (.like path pattern))
    (notLike : ∀ path pattern, motive (.notLike path pattern))
    (isNull : ∀ path, motive (.isNull path)) (isNotNull : ∀ path, motive (.isNotNull path))
    (inList : ∀ path values, motive (.inList path values))
    (notInList : ∀ path values, motive (.notInList path values)) (predicate : Predicate) :
    motive predicate := by
  -- The list of children is a tree of its own, whose members all have the property.
  refine @Predicate.rec motive (fun children => ∀ child ∈ children, motive child)
    always never and or not compare between like notLike isNull isNotNull inList notInList
    ?_ ?_ predicate
  · intro child member
    cases member
  · intro first rest holds_first holds_rest
    exact List.forall_mem_cons.mpr ⟨holds_first, holds_rest⟩

namespace Predicate

mutual

/-- How many levels of nodes a predicate has. -/
def depth : Predicate → Nat
  | .and children => depths children + 1
  | .or children => depths children + 1
  | .not child => child.depth + 1
  | _ => 1

/-- How many levels of nodes the deepest predicate of a list has. -/
def depths : List Predicate → Nat
  | [] => 0
  | child :: rest => max child.depth (depths rest)

end

mutual

/-- The nodes of a predicate, each before its children. -/
def nodes : Predicate → List Predicate
  | .and children => .and children :: allNodes children
  | .or children => .or children :: allNodes children
  | .not child => .not child :: child.nodes
  | leaf => [leaf]

/-- The nodes of predicates that stand side by side. -/
def allNodes : List Predicate → List Predicate
  | [] => []
  | child :: rest => child.nodes ++ allNodes rest

end

/-- Whether a conjunction or disjunction has two children, and a list a member. -/
def IsFilled : Predicate → Prop
  | .and children => 2 ≤ children.length
  | .or children => 2 ≤ children.length
  | .inList _ values => values ≠ []
  | .notInList _ values => values ≠ []
  | _ => True

/-- The deepest predicate of a list is no deeper than a bound that holds of each of them. -/
theorem depths_le {predicates : List Predicate} {bound : Nat}
    (each : ∀ predicate ∈ predicates, predicate.depth ≤ bound) : depths predicates ≤ bound := by
  -- The deepest predicate is the first one or among the others.
  induction predicates with
  | nil => exact Nat.zero_le bound
  | cons predicate rest ih =>
    rw [depths]
    exact Nat.max_le.mpr ⟨each predicate List.mem_cons_self,
      ih fun other member => each other (List.mem_cons_of_mem predicate member)⟩

/-- A predicate is a node of itself. -/
theorem mem_nodes_self (predicate : Predicate) : predicate ∈ predicate.nodes := by
  cases predicate <;> simp [nodes]

/-- The nodes of predicates that stand side by side are those of each of them. -/
theorem mem_allNodes_iff {predicates : List Predicate} {node : Predicate} :
    node ∈ allNodes predicates ↔ ∃ predicate ∈ predicates, node ∈ predicate.nodes := by
  -- A node belongs to the first predicate or to one of the others.
  induction predicates with
  | nil => simp [allNodes]
  | cons predicate rest ih => simp [allNodes, ih]

end Predicate

end Criteria
