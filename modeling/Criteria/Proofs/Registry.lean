import Criteria.Registry

/-!
What a registry answers after a change, and registries in which every operation has its standard
entry, or none.
-/

namespace Criteria

/-- Only the lists take their operands as they were supplied. -/
theorem Entry.coerces_standard (operation : Operation) :
    (Entry.standard operation).coerces = true ↔ ¬(operation = .isIn ∨ operation = .notIn) := by
  cases operation <;> simp [standard]

/-- A standard entry builds the operation that it is the entry of. -/
theorem Entry.builder_standard (operation : Operation) :
    (Entry.standard operation).builder = operation := by
  cases operation <;> rfl

namespace Registry

variable {α : Type} {registry : Registry α}

/-- A registry gives the entry that it holds for an operation. -/
theorem get_eq_ok_iff {operation : Operation} {entry : α} :
    registry.get operation = .ok entry ↔ registry.entry? operation = some entry := by
  -- The entry found is what is given, if one is found.
  unfold get
  cases registry.entry? operation <;> simp

/-- Only an operation without an entry is refused, and by its name. -/
theorem get_eq_error_iff {operation : Operation} {rejection : Rejection} :
    registry.get operation = .error rejection ↔
      registry.entry? operation = none ∧ rejection = .invalidOperation operation.name := by
  -- The one fault there can be is that no entry is found.
  unfold get
  cases registry.entry? operation <;> simp [eq_comm]

/-- An operation that is not registered is refused by its name. -/
theorem get_eq_error_of_not_contains {operation : Operation}
    (absent : registry.contains operation = false) :
    registry.get operation = .error (.invalidOperation operation.name) := by
  have none : registry.entry? operation = none := by simpa [contains] using absent
  exact get_eq_error_iff.mpr ⟨none, rfl⟩

/-- A registered operation has an entry. -/
theorem exists_get_eq_ok_of_contains {operation : Operation}
    (present : registry.contains operation = true) :
    ∃ entry, registry.get operation = .ok entry := by
  obtain ⟨entry, found⟩ := Option.isSome_iff_exists.mp present
  exact ⟨entry, get_eq_ok_iff.mpr found⟩

/-- The listed operations are the registered ones. -/
theorem mem_operations_iff {operation : Operation} :
    operation ∈ registry.operations ↔ registry.contains operation = true := by
  -- An operation is found exactly if some entry is its own.
  simp [operations, contains, entry?]

/-- A registry is empty exactly if no operation has an entry. -/
theorem isEmpty_iff : registry.isEmpty = true ↔ ∀ operation, registry.entry? operation = none := by
  -- No entries means no operations to list, as each entry is that of an operation.
  have unlisted (operation : Operation) :
      operation ∉ registry.operations ↔ registry.entry? operation = none := by
    rw [mem_operations_iff, contains, Option.isSome_iff_ne_none, Classical.not_not]
  calc registry.isEmpty = true
      ↔ registry.operations = [] := by simp [isEmpty, operations]
    _ ↔ ∀ operation, operation ∉ registry.operations := List.eq_nil_iff_forall_not_mem
    _ ↔ ∀ operation, registry.entry? operation = none := forall_congr' unlisted

/-- Registering an operation gives it the new entry and leaves the entries of the others. -/
theorem entry?_register (registry : Registry α) (added operation : Operation) (entry : α) :
    Registry.entry? (registry.register added entry) operation =
      if operation = added then some entry else registry.entry? operation := by
  -- The induction goes through the entries, up to the place of the new one.
  unfold entry? register
  induction registry.entries with
  | nil => by_cases same : operation = added <;> simp [insertEntry, same, eq_comm]
  | cons head rest ih =>
    rw [insertEntry]
    split
    · -- The entry of the operation itself is replaced where it stands.
      rename_i found
      by_cases same : operation = added <;> simp [← found, same, eq_comm]
    split
    · -- The new entry stands before the others.
      by_cases same : operation = added <;> simp [same, eq_comm]
    · -- The first entry is another one, and stays before what the rest becomes.
      rename_i apart _
      by_cases same : head.1 = operation
      · have other : operation ≠ added := fun own => apart (own.symm.trans same.symm)
        simp [same, other]
      · simpa [same] using ih

/-- Taking an operation away leaves the entries of the others. -/
theorem entry?_without (registry : Registry α) (removed operation : Operation) :
    Registry.entry? (registry.without removed) operation =
      if operation = removed then none else registry.entry? operation := by
  unfold entry? without
  rw [List.find?_filter]
  split
  · rename_i same
    -- What is found would have to be both kept and taken away.
    simp [same]
  · rename_i other
    -- The entries of another operation are all kept.
    congr 2
    funext present
    by_cases found : present.1 = operation
    · simp [found, other]
    · simp [found]

/-- Registering operations in turn gives them the entries of the table and leaves the others. -/
theorem entry?_foldl_register (table : Operation → α) (operations : List Operation)
    (registry : Registry α) (operation : Operation) :
    entry? (operations.foldl (fun registry added => registry.register added (table added)) registry)
        operation =
      if operation ∈ operations then some (table operation) else registry.entry? operation := by
  -- The registry that the fold has come to changes with each operation.
  induction operations generalizing registry with
  | nil => simp
  | cons first rest ih =>
    rw [List.foldl_cons, ih, entry?_register]
    by_cases later : operation ∈ rest
    · simp [later]
    · by_cases same : operation = first <;> simp [later, same]

/-- The registry of a table holds the entry that the table gives, for every operation. -/
theorem entry?_ofTable (table : Operation → α) (operation : Operation) :
    entry? (ofTable table) operation = some (table operation) :=
  -- All operations are registered in turn, and none is left out.
  (entry?_foldl_register table Operation.all empty operation).trans
    (if_pos (Operation.mem_all operation))

section Standard

variable {registry : Registry Entry}

/-- The standard registry holds the standard entry of every operation. -/
theorem get_standard (operation : Operation) :
    Registry.standard.get operation = .ok (.standard operation) :=
  -- The standard registry is that of the table of standard entries.
  get_eq_ok_iff.mpr (entry?_ofTable Entry.standard operation)

/-- A registry in which each operation has its standard entry, unless it has none. -/
def OnlyStandard (registry : Registry Entry) : Prop :=
  ∀ operation entry, registry.get operation = .ok entry → entry = .standard operation

/-- The standard registry has only standard entries. -/
theorem onlyStandard_standard : standard.OnlyStandard := by
  -- The entry found is the one that the table gives for the operation.
  intro operation entry registered
  exact Except.ok.inj (registered.symm.trans (get_standard operation))

/-- Taking an operation away leaves only standard entries. -/
theorem OnlyStandard.without (only : registry.OnlyStandard) (removed : Operation) :
    (registry.without removed).OnlyStandard := by
  -- An entry that is still found was found before.
  intro operation entry registered
  rw [get_eq_ok_iff, entry?_without] at registered
  split at registered
  · cases registered
  · exact only operation entry (get_eq_ok_iff.mpr registered)

end Standard

end Registry

end Criteria
