import Criteria.Proofs.Value.Order
import Criteria.Telemetry.Counters

/-! Tables in ascending order of keys, each the list of the values that a function gives. -/

namespace Criteria

variable {α : Type} {table : List (String × α)}

/-- Texts that compare in any order but as equal are not the same. -/
theorem ne_of_textOrder {left right : String} {order : Ordering}
    (compared : textOrder left.toList right.toList = order) (apart : order ≠ .eq) :
    left ≠ right := by
  -- A text compares as equal with itself.
  rintro rfl
  exact apart (compared.symm.trans (textOrder_eq_iff.mpr rfl))

/-- A key is looked up in the first entry, and then in the rest. -/
theorem lookup_cons_eq (entry : String × α) (table : List (String × α)) (key : String) :
    (entry :: table).lookup key = if key = entry.1 then some entry.2 else table.lookup key := by
  -- The key is that of the first entry or not.
  rw [List.lookup_cons]
  by_cases same : key = entry.1
  · simp [same]
  · rw [beq_eq_false_iff_ne.mpr same, if_neg same]

/-- One entry adjusted twice is adjusted by one change after the other. -/
theorem adjust_adjust (key : String) (first : α) (change later : α → α)
    (table : List (String × α)) :
    adjust key first later (adjust key first change table) =
      adjust key first (fun value => later (change value)) table := by
  -- The entry that was made or changed is found again at the same place.
  have found : textOrder key.toList key.toList = .eq := textOrder_eq_iff.mpr rfl
  induction table with
  | nil => simp [adjust, found]
  | cons head rest ih =>
    rw [adjust.eq_2 key first change, adjust.eq_2 key first fun value => later (change value)]
    cases order : textOrder key.toList head.1.toList <;> simp [adjust, order, found, ih]

/-- The keys of a table ascend, so that no two of them are the same. -/
def IsAscending (table : List (String × α)) : Prop :=
  table.Pairwise fun entry later => textOrder entry.1.toList later.1.toList = .lt

/-- A key of an adjusted table is the one adjusted or was there before. -/
theorem key_of_mem_adjust {key : String} {first : α} {change : α → α} {entry : String × α}
    (member : entry ∈ adjust key first change table) :
    entry.1 = key ∨ ∃ before ∈ table, before.1 = entry.1 := by
  -- The induction goes through the table, up to the place of the key.
  induction table with
  | nil =>
    rw [adjust, List.mem_singleton] at member
    exact .inl (congrArg Prod.fst member)
  | cons head rest ih =>
    rw [adjust] at member
    split at member <;> rcases List.mem_cons.mp member with same | later
    · -- Before a greater key, the new entry goes in front of the table.
      exact .inl (congrArg Prod.fst same)
    · exact .inr ⟨entry, later, rfl⟩
    · -- At the key itself, its value changes and the key stays.
      exact .inr ⟨head, List.mem_cons_self, (congrArg Prod.fst same).symm⟩
    · exact .inr ⟨entry, List.mem_cons_of_mem _ later, rfl⟩
    · -- Behind a smaller key, the change is made in the rest.
      exact .inr ⟨head, List.mem_cons_self, (congrArg Prod.fst same).symm⟩
    · obtain known | ⟨before, present, same⟩ := ih later
      · exact .inl known
      · exact .inr ⟨before, List.mem_cons_of_mem _ present, same⟩

namespace IsAscending

/-- Adjusting one entry keeps the keys ascending. -/
theorem adjust (ascending : IsAscending table) (key : String) (first : α) (change : α → α) :
    IsAscending (Criteria.adjust key first change table) := by
  -- The induction goes through the table, up to the place of the key.
  induction table with
  | nil => exact List.pairwise_singleton _ _
  | cons head rest ih =>
    obtain ⟨below, others⟩ := List.pairwise_cons.mp ascending
    rw [Criteria.adjust]
    cases order : textOrder key.toList head.1.toList with
    | lt =>
      -- The new key precedes the first one, and so all others.
      refine List.pairwise_cons.mpr ⟨fun later member => ?_, ascending⟩
      rcases List.mem_cons.mp member with same | further
      · exact same ▸ order
      · exact textOrder_eq_lt_trans order (below later further)
    -- The entry changes where it stands, under the same key.
    | eq => exact List.pairwise_cons.mpr ⟨below, others⟩
    -- The key comes after the first one, and so does all else in the rest.
    | gt =>
      refine List.pairwise_cons.mpr ⟨fun later member => ?_, ih others⟩
      obtain known | ⟨before, present, same⟩ := key_of_mem_adjust member
      · rw [known]
        exact textOrder_eq_gt_iff.mp order
      · rw [← same]
        exact below before present

/-- A key that precedes all others of a table has no entry in it. -/
theorem lookup_eq_none {key : String}
    (below : ∀ entry ∈ table, textOrder key.toList entry.1.toList = .lt) :
    table.lookup key = none := by
  -- A key that precedes another is not that one.
  refine List.lookup_eq_none_iff.mpr fun entry member => ?_
  rw [bne_iff_ne]
  exact ne_of_textOrder (below entry member) (by decide)

/-- The entries of an adjusted table are those from before, but for the one adjusted. -/
theorem lookup_adjust (ascending : IsAscending table) (key : String) (first : α)
    (change : α → α) (other : String) :
    (Criteria.adjust key first change table).lookup other =
      if other = key then some (change ((table.lookup key).getD first))
      else table.lookup other := by
  -- The induction goes through the table, up to the place of the key.
  induction table with
  | nil => exact lookup_cons_eq (key, change first) [] other
  | cons head rest ih =>
    obtain ⟨below, others⟩ := List.pairwise_cons.mp ascending
    rw [Criteria.adjust]
    cases order : textOrder key.toList head.1.toList with
    | lt =>
      -- The key precedes all others, so there was no entry for it before.
      have absent : (head :: rest).lookup key = none := by
        refine lookup_eq_none fun later member => ?_
        rcases List.mem_cons.mp member with same | further
        · exact same ▸ order
        · exact textOrder_eq_lt_trans order (below later further)
      rw [absent]
      exact lookup_cons_eq (key, change first) (head :: rest) other
    | eq =>
      -- The first entry is the one of the key, and is changed in its place.
      have found : key = head.1 := String.toList_inj.mp (textOrder_eq_iff.mp order)
      by_cases same : other = head.1 <;> simp [lookup_cons_eq, found, same]
    -- The first entry is another one, and the change is made in the rest.
    | gt =>
      have apart : key ≠ head.1 := ne_of_textOrder order (by decide)
      by_cases same : other = head.1
      · simp [lookup_cons_eq, same, apart.symm]
      · simp [lookup_cons_eq, same, apart, ih others]

/-- What is listed in a table is what is found in it. -/
theorem lookup_of_mem (ascending : IsAscending table) {entry : String × α}
    (member : entry ∈ table) : table.lookup entry.1 = some entry.2 := by
  -- The keys of later entries differ from the first one, so the search goes past it.
  induction table with
  | nil => cases member
  | cons head rest ih =>
    obtain ⟨below, others⟩ := List.pairwise_cons.mp ascending
    rw [lookup_cons_eq]
    -- The entry is the first one, or its key is greater.
    rcases List.mem_cons.mp member with rfl | later
    · rw [if_pos rfl]
    · have apart : head.1 ≠ entry.1 := ne_of_textOrder (below entry later) (by decide)
      rw [if_neg apart.symm]
      exact ih others later

/-- No key is listed twice. -/
theorem nodup_keys (ascending : IsAscending table) : (table.map Prod.fst).Nodup := by
  -- Keys that ascend are all different.
  refine List.pairwise_map.mpr (List.Pairwise.imp ?_ ascending)
  exact fun order => ne_of_textOrder order (by decide)

end IsAscending

/-- A table lists, in ascending order of the keys, all the values that a function gives. -/
structure Tabulates (table : List (String × α)) (value? : String → Option α) : Prop where
  ascending : IsAscending table
  lookup_eq : ∀ key, table.lookup key = value? key

namespace Tabulates

variable {value? value'? : String → Option α}

/-- A table with no entries lists no values. -/
theorem nil : Tabulates ([] : List (String × α)) fun _ => none :=
  ⟨.nil, fun _ => rfl⟩

/-- Adjusting one entry lists the values of a function that differs at that key. -/
theorem adjust (tabulates : Tabulates table value?) {key : String} {first : α} {change : α → α}
    (changed : value'? key = some (change ((value? key).getD first)))
    (kept : ∀ other, other ≠ key → value'? other = value? other) :
    Tabulates (Criteria.adjust key first change table) value'? := by
  -- What is found at the key is the change of what was found, and elsewhere all is as before.
  refine ⟨tabulates.ascending.adjust key first change, fun other => ?_⟩
  rw [tabulates.ascending.lookup_adjust, tabulates.lookup_eq, tabulates.lookup_eq]
  split
  · rename_i same
    rw [same, changed]
  · rename_i apart
    exact (kept other apart).symm

/-- An entry holds the value of its key. -/
theorem value_of_mem (tabulates : Tabulates table value?) {entry : String × α}
    (member : entry ∈ table) : value? entry.1 = some entry.2 := by
  -- What is listed is found, and what is found is the value.
  rw [← tabulates.lookup_eq]
  exact tabulates.ascending.lookup_of_mem member

/-- A key that has a value is listed. -/
theorem mem_keys (tabulates : Tabulates table value?) {key : String} {value : α}
    (given : value? key = some value) : key ∈ table.map Prod.fst := by
  -- What is found stands somewhere in the table.
  rw [← tabulates.lookup_eq] at given
  obtain ⟨before, after, rfl, -⟩ := List.lookup_eq_some_iff.mp given
  simp

end Tabulates

end Criteria
