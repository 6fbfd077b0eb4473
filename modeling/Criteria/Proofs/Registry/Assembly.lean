import Criteria.Proofs.Registry
import Mathlib.Data.List.Basic

/-!
A registry is assembled step by step. It ends up with what was said last of each operation, and it
lists its operations in declaration order, in whatever order they were registered.
-/

namespace Criteria

/-- No two operations are declared at the same place. -/
theorem Operation.index_inj {first second : Operation} :
    first.index = second.index ↔ first = second :=
  -- Every operation is in the list, so its place is that of itself.
  List.idxOf_inj (mem_all first)

/-- The list of all operations follows the order in which they are declared. -/
theorem Operation.all_ascend : all.Pairwise fun earlier later => earlier.index < later.index := by
  decide

/-- Operations that ascend in declaration order are listed once each. -/
theorem Operation.nodup_of_ascend {operations : List Operation}
    (ascend : operations.Pairwise fun earlier later => earlier.index < later.index) :
    operations.Nodup := by
  -- Of two operations at different places, neither is the other.
  refine ascend.imp ?_
  intro earlier later lesser same
  exact Nat.ne_of_lt lesser (congrArg index same)

namespace Registry

variable {α : Type} {table : Operation → α} {registry : Registry α} {operation : Operation}
  {word : Option α} {steps : List (Step α)}

/-! ### The order of the entries -/

/-- The operations of a registry ascend in declaration order, so that none is there twice. -/
def IsOrdered (registry : Registry α) : Prop :=
  registry.operations.Pairwise fun earlier later => earlier.index < later.index

/-- An operation among entries with one added or replaced is that one or was there before. -/
theorem operation_of_mem_insertEntry {added : Operation} {entry : α}
    {entries : List (Operation × α)}
    (member : operation ∈ (insertEntry added entry entries).map Prod.fst) :
    operation = added ∨ operation ∈ entries.map Prod.fst := by
  -- The induction goes through the entries, up to the place of the new one.
  induction entries with
  | nil => exact .inl (List.mem_singleton.mp member)
  | cons head rest ih =>
    rw [insertEntry] at member
    split at member
    · -- The replaced entry is gone, and the others were there before.
      exact (List.mem_cons.mp member).imp_right (List.mem_cons_of_mem _)
    split at member
    · -- The new entry stands in front of all that were there.
      exact List.mem_cons.mp member
    · -- The first entry stays, and the rest holds what it did or the new entry.
      rcases List.mem_cons.mp member with same | later
      · exact .inr (same ▸ List.mem_cons_self)
      · exact (ih later).imp_right (List.mem_cons_of_mem _)

namespace IsOrdered

/-- Registering an operation keeps the order. -/
theorem register (ordered : registry.IsOrdered) (added : Operation) (entry : α) :
    (registry.register added entry).IsOrdered := by
  -- The induction goes through the entries, up to the place of the new one.
  obtain ⟨entries⟩ := registry
  unfold IsOrdered operations Registry.register at *
  induction entries with
  | nil => exact List.pairwise_singleton _ _
  | cons head rest ih =>
    obtain ⟨below, others⟩ := List.pairwise_cons.mp ordered
    rw [insertEntry]
    split
    · -- The replaced entry was one of the same operation.
      rename_i found
      rw [found]
      exact ordered
    split
    · -- The operation precedes the first one, and so all others.
      rename_i lesser
      refine List.pairwise_cons.mpr ⟨fun later member => ?_, ordered⟩
      rcases List.mem_cons.mp member with same | further
      · exact same ▸ lesser
      · exact Nat.lt_trans lesser (below later further)
    · -- The first one precedes the operation, which is neither the same nor declared before it.
      rename_i apart notLesser
      have greater : head.1.index < added.index :=
        Nat.lt_of_le_of_ne (Nat.le_of_not_lt notLesser) fun same =>
          apart (Operation.index_inj.mp same.symm)
      refine List.pairwise_cons.mpr ⟨fun later member => ?_, ih others⟩
      rcases operation_of_mem_insertEntry member with same | present
      · exact same ▸ greater
      · exact below later present

/-- Taking an operation away keeps the order. -/
theorem without (ordered : registry.IsOrdered) (removed : Operation) :
    (registry.without removed).IsOrdered :=
  -- What stays is listed as it was before.
  List.Pairwise.sublist (List.filter_sublist.map Prod.fst) ordered

end IsOrdered

/-- The registry of no operation is in order. -/
theorem isOrdered_empty : (empty : Registry α).IsOrdered :=
  List.Pairwise.nil

/-- The registry of a table is in order. -/
theorem isOrdered_ofTable (table : Operation → α) : (ofTable table).IsOrdered :=
  -- It comes from the registry of no operation by registering one after the other.
  List.foldlRecOn Operation.all _ isOrdered_empty fun _ ordered added _ =>
    ordered.register added (table added)

namespace IsOrdered

/-- A step keeps the order. -/
theorem apply (ordered : registry.IsOrdered) (table : Operation → α) (step : Step α) :
    (Registry.apply table registry step).IsOrdered := by
  -- Steps change one entry, or start again from a registry that is in order.
  cases step with
  | register added entry => exact ordered.register added entry
  | without removed => exact ordered.without removed
  | standard => exact isOrdered_ofTable table
  | empty => exact isOrdered_empty

/-- Steps taken in turn keep the order. -/
theorem assemble (ordered : registry.IsOrdered) (table : Operation → α) (steps : List (Step α)) :
    (Registry.assemble table registry steps).IsOrdered := by
  -- Each step is taken from a registry in order.
  induction steps generalizing registry with
  | nil => exact ordered
  | cons step rest ih => exact ih (ordered.apply table step)

/-- The listed operations are the registered ones among all, in the order of all. -/
theorem operations_eq (ordered : registry.IsOrdered) :
    registry.operations = Operation.all.filter registry.contains := by
  -- What is filtered out of all operations ascends as they do.
  have kept : (Operation.all.filter registry.contains).Pairwise
      fun earlier later => earlier.index < later.index :=
    Operation.all_ascend.sublist List.filter_sublist
  have members (operation : Operation) :
      operation ∈ registry.operations ↔ operation ∈ Operation.all.filter registry.contains := by
    rw [mem_operations_iff, List.mem_filter]
    exact (and_iff_right (Operation.mem_all operation)).symm
  -- Two lists of the same members that both ascend are the same.
  have rearranged : registry.operations.Perm (Operation.all.filter registry.contains) :=
    (List.perm_ext_iff_of_nodup (Operation.nodup_of_ascend ordered)
      (Operation.nodup_of_ascend kept)).mpr members
  refine rearranged.eq_of_pairwise ?_ ordered kept
  intro first second _ _ before after
  exact absurd before (Nat.lt_asymm after)

end IsOrdered

/-! ### The last word on an operation -/

/-- Whether a step says anything of an operation, as starting again does of every one. -/
def Step.Mentions (operation : Operation) : Step α → Prop
  | .register mentioned _ | .without mentioned => mentioned = operation
  | .standard | .empty => True

/-- The entry that a step leaves to an operation it mentions, if it leaves one. -/
def Step.leaves? (table : Operation → α) (operation : Operation) : Step α → Option α
  | .register _ entry => some entry
  | .without _ | .empty => none
  | .standard => some (table operation)

/--
The last word of some steps on an operation that had this entry, or none, at the start.

The last step that mentions the operation has it, and without one all stays as it was.
-/
inductive LastWord (table : Operation → α) (operation : Operation) (start : Option α) :
    List (Step α) → Option α → Prop where
  | unmentioned {steps : List (Step α)} (silent : ∀ step ∈ steps, ¬step.Mentions operation) :
      LastWord table operation start steps start
  | mentioned (before : List (Step α)) {step : Step α} {after : List (Step α)}
      (mentions : step.Mentions operation) (silent : ∀ later ∈ after, ¬later.Mentions operation) :
      LastWord table operation start (before ++ step :: after) (step.leaves? table operation)

/-- A step leaves to an operation that it mentions what it says. -/
theorem entry?_apply_of_mentions {step : Step α} (mentions : step.Mentions operation)
    (table : Operation → α) (registry : Registry α) :
    entry? (apply table registry step) operation = step.leaves? table operation := by
  -- The step is about the one operation, or about all of them.
  cases step with
  | register mentioned entry =>
    exact (entry?_register registry mentioned operation entry).trans (if_pos mentions.symm)
  | without mentioned =>
    exact (entry?_without registry mentioned operation).trans (if_pos mentions.symm)
  | standard => exact entry?_ofTable table operation
  | empty => rfl

/-- A step leaves the entry of an operation that it does not mention as it was. -/
theorem entry?_apply_of_not_mentions {step : Step α} (silent : ¬step.Mentions operation)
    (table : Operation → α) (registry : Registry α) :
    entry? (apply table registry step) operation = registry.entry? operation := by
  -- The step is about another operation, as starting again is about all.
  cases step with
  | register mentioned entry =>
    have apart : operation ≠ mentioned := fun same => silent same.symm
    exact (entry?_register registry mentioned operation entry).trans (if_neg apart)
  | without mentioned =>
    have apart : operation ≠ mentioned := fun same => silent same.symm
    exact (entry?_without registry mentioned operation).trans (if_neg apart)
  | standard | empty => exact absurd trivial silent

/-- Steps that do not mention an operation leave its entry as it was. -/
theorem entry?_assemble_of_silent (silent : ∀ step ∈ steps, ¬step.Mentions operation)
    (table : Operation → α) (registry : Registry α) :
    entry? (assemble table registry steps) operation = registry.entry? operation := by
  -- No step changes the entry, from whatever registry it is taken.
  induction steps generalizing registry with
  | nil => rfl
  | cons step rest ih =>
    obtain ⟨first, later⟩ := List.forall_mem_cons.mp silent
    calc entry? (assemble table (apply table registry step) rest) operation
        = entry? (apply table registry step) operation := ih later (apply table registry step)
      _ = registry.entry? operation := entry?_apply_of_not_mentions first table registry

namespace LastWord

/-- An operation has the last word on it as its entry in the assembled registry. -/
theorem entry?_assemble (said : LastWord table operation (registry.entry? operation) steps word) :
    entry? (assemble table registry steps) operation = word := by
  -- Without a step that mentions the operation, nothing has changed for it.
  cases said with
  | unmentioned silent => exact entry?_assemble_of_silent silent table registry
  | @mentioned before step after mentions silent =>
    -- Whatever the steps before led to, the one that mentions the operation settles its entry.
    have split : assemble table registry (before ++ step :: after) =
        assemble table (apply table (assemble table registry before) step) after :=
      List.foldl_append
    rw [split, entry?_assemble_of_silent silent]
    exact entry?_apply_of_mentions mentions table (assemble table registry before)

/-- There is a last word on every operation. -/
theorem exists_word (table : Operation → α) (operation : Operation) (start : Option α)
    (steps : List (Step α)) : ∃ word, LastWord table operation start steps word := by
  -- The induction is on the steps, and later ones have the last word over the first.
  induction steps with
  | nil => exact ⟨start, .unmentioned (List.forall_mem_nil _)⟩
  | cons step rest ih =>
    obtain ⟨word, said⟩ := ih
    cases said with
    | unmentioned silent =>
      -- With nothing said later, the first step has the last word if it says anything.
      by_cases mentions : step.Mentions operation
      · exact ⟨step.leaves? table operation, .mentioned [] mentions silent⟩
      · exact ⟨start, .unmentioned (List.forall_mem_cons.mpr ⟨mentions, silent⟩)⟩
    | @mentioned before last after mentions silent =>
      exact ⟨last.leaves? table operation, .mentioned (step :: before) mentions silent⟩

/-- The last word on an operation is the entry that the assembled registry holds for it. -/
theorem iff_entry?_assemble :
    LastWord table operation (registry.entry? operation) steps word ↔
      entry? (assemble table registry steps) operation = word := by
  refine ⟨entry?_assemble, ?_⟩
  rintro rfl
  -- There is some last word, and the entry is that one.
  obtain ⟨word, said⟩ := exists_word table operation (registry.entry? operation) steps
  exact said.entry?_assemble ▸ said

end LastWord

/-! ### The assembled registry -/

/-- A registry answers every question as a table that gives each operation an entry, or none. -/
structure IsTableOf (registry : Registry α) (given : Operation → Option α → Prop) : Prop where
  contains_iff : ∀ operation,
    registry.contains operation = true ↔ ∃ entry, given operation (some entry)
  get_ok_iff : ∀ operation entry,
    registry.get operation = .ok entry ↔ given operation (some entry)
  get_error_iff : ∀ operation rejection,
    registry.get operation = .error rejection ↔
      given operation none ∧ rejection = .invalidOperation operation.name
  operations_eq : registry.operations = Operation.all.filter registry.contains
  size_eq : registry.size = Operation.all.countP registry.contains
  isEmpty_iff : registry.isEmpty = true ↔ ∀ operation, given operation none

/-- A registry in order is the table of the entries that it holds. -/
theorem IsOrdered.isTableOf (ordered : registry.IsOrdered)
    {given : Operation → Option α → Prop}
    (held : ∀ operation word, given operation word ↔ registry.entry? operation = word) :
    registry.IsTableOf given where
  -- What is given of an operation is what looking it up finds.
  contains_iff operation := by
    simp only [held, contains, Option.isSome_iff_exists]
  get_ok_iff operation entry := get_eq_ok_iff.trans (held operation (some entry)).symm
  get_error_iff operation rejection := by
    rw [get_eq_error_iff, held]
  operations_eq := ordered.operations_eq
  size_eq := by
    -- The entries are as many as the operations that they are of.
    calc registry.size
        = registry.operations.length := (List.length_map _).symm
      _ = (Operation.all.filter registry.contains).length := by rw [ordered.operations_eq]
      _ = Operation.all.countP registry.contains := List.countP_eq_length_filter.symm
  isEmpty_iff := by
    simp only [held, Registry.isEmpty_iff]

/-- Steps taken from a registry in order lead to the table of their last words. -/
theorem IsOrdered.assemble_isTableOf (ordered : registry.IsOrdered) (table : Operation → α)
    (steps : List (Step α)) :
    (Registry.assemble table registry steps).IsTableOf fun operation =>
      LastWord table operation (registry.entry? operation) steps :=
  -- The steps keep the order, and each entry is the last word on its operation.
  (ordered.assemble table steps).isTableOf fun _ _ => LastWord.iff_entry?_assemble

/--
A registry assembled from the empty one or from that of the standard entries is the table of the
last words of its steps: what was last registered for an operation, or what there was for it at the
start.

The entries may be of any kind, and so may the table that has the standard ones.
-/
theorem assemble_tabulates_last_words (table : Operation → α) (steps : List (Step α)) :
    (assemble table empty steps).IsTableOf
        (fun operation => LastWord table operation none steps) ∧
      (assemble table (ofTable table) steps).IsTableOf fun operation =>
        LastWord table operation (some (table operation)) steps := by
  -- At the start, the one registry has no entry and the other one all of the table's.
  refine ⟨isOrdered_empty.assemble_isTableOf table steps, ?_⟩
  simpa only [entry?_ofTable] using (isOrdered_ofTable table).assemble_isTableOf table steps

/-- What is registered out of order is listed in order. -/
example : (assemble Entry.standard empty [.register .like (.standard .like),
    .register .equal (.standard .equal), .register .isIn (.standard .isIn),
    .without .like]).operations = [.equal, .isIn] := by
  decide

end Registry

end Criteria
