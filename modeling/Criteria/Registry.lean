import Criteria.Rejection

/-! Tables of the operations that a compiler knows. -/

namespace Criteria

/-- Entries of any kind by operation, in declaration order and at most one for each. -/
structure Registry (α : Type) where
  entries : List (Operation × α)
deriving DecidableEq

namespace Registry

variable {α : Type}

/-- The registry of no operation. -/
def empty : Registry α := ⟨[]⟩

/-- Entries with one added or replaced, declaration order kept. -/
def insertEntry (operation : Operation) (entry : α) :
    List (Operation × α) → List (Operation × α)
  | [] => [(operation, entry)]
  | (present, old) :: rest =>
    if operation = present then (operation, entry) :: rest
    -- The first entry that is declared later shows the place of the new one.
    else if operation.index < present.index then (operation, entry) :: (present, old) :: rest
    else (present, old) :: insertEntry operation entry rest

/-- The registry with an entry added or replaced. -/
def register (registry : Registry α) (operation : Operation) (entry : α) : Registry α :=
  ⟨insertEntry operation entry registry.entries⟩

/-- The registry without an operation. -/
def without (registry : Registry α) (operation : Operation) : Registry α :=
  ⟨registry.entries.filter fun present => present.1 ≠ operation⟩

/-- The registry that holds every operation with the entry that a table gives it. -/
def ofTable (table : Operation → α) : Registry α :=
  Operation.all.foldl (fun registry operation => registry.register operation (table operation))
    empty

/-- The registry that holds every operation with its standard entry. -/
def standard : Registry Entry :=
  ofTable Entry.standard

/-- The entry of an operation. -/
def entry? (registry : Registry α) (operation : Operation) : Option α :=
  (registry.entries.find? fun present => present.1 = operation).map Prod.snd

/-- The entry of an operation, or the rejection of an operation that is not registered. -/
def get (registry : Registry α) (operation : Operation) : Except Rejection α :=
  match registry.entry? operation with
  | some entry => .ok entry
  | none => .error (.invalidOperation operation.name)

/-- Whether an operation is registered. -/
def contains (registry : Registry α) (operation : Operation) : Bool :=
  (registry.entry? operation).isSome

/-- The registered operations, in declaration order. -/
def operations (registry : Registry α) : List Operation :=
  registry.entries.map Prod.fst

/-- How many operations are registered. -/
def size (registry : Registry α) : Nat :=
  registry.entries.length

/-- Whether no operation is registered. -/
def isEmpty (registry : Registry α) : Bool :=
  registry.entries.isEmpty

/-- The entries as a description shows them. -/
def describe (registry : Registry Entry) : String :=
  let pair (present : Operation × Entry) : String :=
    present.1.title ++ ": " ++ present.2.describe
  "\x7b" ++ ", ".intercalate (registry.entries.map pair) ++ "\x7d"

/-- One step of assembling a registry. -/
inductive Step (α : Type) where
  | register (operation : Operation) (entry : α)
  | without (operation : Operation)
  /-- Starts again from every standard entry. -/
  | standard
  /-- Starts again from nothing. -/
  | empty
deriving DecidableEq

/-- The registry after one step, where a table has the standard entries. -/
def apply (table : Operation → α) (registry : Registry α) : Step α → Registry α
  | .register operation entry => registry.register operation entry
  | .without operation => registry.without operation
  -- Starting again forgets all that was said before.
  | .standard => ofTable table
  | .empty => empty

/-- The registry after steps taken in turn, where a table has the standard entries. -/
def assemble (table : Operation → α) (registry : Registry α) (steps : List (Step α)) :
    Registry α :=
  steps.foldl (apply table) registry

end Registry

end Criteria
