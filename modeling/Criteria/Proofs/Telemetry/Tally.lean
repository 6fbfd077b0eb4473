import Criteria.Proofs.Compiler.Counting
import Criteria.Proofs.Telemetry.Course
import Criteria.Proofs.Telemetry.Table
import Mathlib.Algebra.BigOperators.Group.List.Basic
import Mathlib.Algebra.GroupWithZero.Nat

/-!
What the calls of the compiler come to: in total, for each entity and for each code of rejection.
Counters that take the events of the calls hold these numbers, as far as a counter goes.
-/

namespace Criteria

namespace Call

/-- The code that a call is rejected with, if it is. -/
def code? (call : Call) : Option String :=
  match call.outcome with
  | .ok _ => none
  | .error rejection => some rejection.kind.code

/-- Whether a call comes to a query. -/
def succeeds (call : Call) : Bool :=
  call.code?.isNone

/-- The calls whose model has some name. -/
def named (entity : String) (calls : List Call) : List Call :=
  calls.filter fun call => call.model.name = entity

/-- How many calls are rejected with some code. -/
def rejectedWith (code : String) (calls : List Call) : Nat :=
  calls.countP fun call => call.code? = some code

end Call

namespace TotalCounters

/-- What calls come to together; only those that succeed count with the size of their request. -/
def of (calls : List Call) : TotalCounters :=
  -- What a rejected call asked for is left out.
  let requests := (calls.filter Call.succeeds).map Call.request
  { calls := calls.length
    succeeded := (calls.filter Call.succeeds).length
    rejected := (calls.filter fun call => !call.succeeds).length
    criteria := (requests.map SearchRequest.criterionCount).sum
    groups := (requests.map SearchRequest.groupCount).sum
    sortKeys := (requests.map fun request => request.sort.length).sum }

/-- The same numbers as entity counters, which do not count groups. -/
def forEntity (total : TotalCounters) : EntityCounters :=
  ⟨total.calls, total.succeeded, total.rejected, total.criteria, total.sortKeys⟩

/-- The calls of two lists come to the sums of what those of each come to. -/
theorem of_append (first second : List Call) :
    TotalCounters.of (first ++ second) =
      { calls := (of first).calls + (of second).calls
        succeeded := (of first).succeeded + (of second).succeeded
        rejected := (of first).rejected + (of second).rejected
        criteria := (of first).criteria + (of second).criteria
        groups := (of first).groups + (of second).groups
        sortKeys := (of first).sortKeys + (of second).sortKeys } := by
  -- Counting and adding up go over the first list and then over the second.
  simp [of]

/-- A call that succeeds counts with the size of its request. -/
theorem of_singleton_of_succeeds {call : Call} (succeeds : call.succeeds = true) :
    TotalCounters.of [call] =
      ⟨1, 1, 0, call.request.criterionCount, call.request.groupCount,
        call.request.sort.length⟩ := by
  simp [of, succeeds]

/-- A call that is rejected counts as a call alone. -/
theorem of_singleton_of_rejected {call : Call} (rejected : call.succeeds = false) :
    TotalCounters.of [call] = ⟨1, 0, 1, 0, 0, 0⟩ := by
  simp [of, rejected]

/-- The order of the calls makes no difference. -/
theorem of_perm {first second : List Call} (same : first.Perm second) :
    TotalCounters.of first = .of second := by
  -- The same calls succeed in either order, and sums do not depend on it.
  have requests := (same.filter Call.succeeds).map Call.request
  simp only [of, same.length_eq, (same.filter _).length_eq, (requests.map _).sum_eq]

/-- Every call succeeds or is rejected. -/
theorem calls_eq_succeeded_add_rejected (calls : List Call) :
    (of calls).calls = (of calls).succeeded + (of calls).rejected :=
  -- What is not counted as a success is counted as a rejection.
  List.length_eq_length_filter_add Call.succeeds

end TotalCounters

namespace EntityCounters

/-- Two entities' counters together. -/
def add (left right : EntityCounters) : EntityCounters where
  calls := left.calls + right.calls
  succeeded := left.succeeded + right.succeeded
  rejected := left.rejected + right.rejected
  criteria := left.criteria + right.criteria
  sortKeys := left.sortKeys + right.sortKeys

/-- The counters of entities together, number by number. -/
def sum (entities : List EntityCounters) : EntityCounters where
  calls := (entities.map calls).sum
  succeeded := (entities.map succeeded).sum
  rejected := (entities.map rejected).sum
  criteria := (entities.map criteria).sum
  sortKeys := (entities.map sortKeys).sum

/-- A first entity's counters are added to those of the rest. -/
theorem sum_cons (first : EntityCounters) (rest : List EntityCounters) :
    sum (first :: rest) = first.add (sum rest) :=
  rfl

/-- What the calls for entities of a name come to, if there are any. -/
def of? (calls : List Call) (entity : String) : Option EntityCounters :=
  if (Call.named entity calls).isEmpty then none
  else some (TotalCounters.of (Call.named entity calls)).forEntity

variable (calls : List Call) (call : Call)

/-- One more call counts for the entity of its own model. -/
theorem of?_append_self :
    of? (calls ++ [call]) call.model.name =
      some (TotalCounters.of (Call.named call.model.name calls ++ [call])).forEntity := by
  -- With the call itself there is one, so the entity has an entry.
  simp [of?, Call.named]

/-- One more call counts for no other entity. -/
theorem of?_append_of_ne {entity : String} (other : entity ≠ call.model.name) :
    of? (calls ++ [call]) entity = of? calls entity := by
  -- The call is not among those of the other entity.
  simp [of?, Call.named, other.symm]

end EntityCounters

/-- How many calls are rejected with a code, if any are. -/
def rejectionCount? (calls : List Call) (code : String) : Option Nat :=
  if Call.rejectedWith code calls = 0 then none else some (Call.rejectedWith code calls)

/-- One more rejection counts for its own code. -/
theorem rejectionCount?_append (calls : List Call) (call : Call) (code : String) :
    rejectionCount? (calls ++ [call]) code =
      if call.code? = some code then some (Call.rejectedWith code calls + 1)
      else rejectionCount? calls code := by
  -- The call is counted if its code is the one asked for.
  by_cases same : call.code? = some code <;> simp [rejectionCount?, Call.rejectedWith, same]

/-- The counters hold what some calls come to, in total, by entity and by code of rejection. -/
structure Counters.Tally (counters : Counters) (calls : List Call) : Prop where
  total : counters.total = .of calls
  /-- Just the entities that calls were made for are listed, each with its own calls. -/
  entities : Tabulates counters.entities (EntityCounters.of? calls)
  /-- Just the codes that calls were rejected with are listed. -/
  rejections : Tabulates counters.rejections (rejectionCount? calls)

/-- Values grouped by keys none of which is listed twice are the same values in another order. -/
theorem flatMap_filter_perm {κ υ : Type} [DecidableEq κ] (key : υ → κ) {keys : List κ}
    {values : List υ} (distinct : keys.Nodup) (covered : ∀ value ∈ values, key value ∈ keys) :
    (keys.flatMap fun k => values.filter fun value => key value = k).Perm values := by
  -- The induction is on the keys, and the first one takes its values away from the others.
  induction keys generalizing values with
  | nil =>
    cases values with
    | nil => exact .nil
    | cons value rest => cases covered value List.mem_cons_self
  | cons first others ih =>
    obtain ⟨absent, distinct⟩ := List.nodup_cons.mp distinct
    -- The values of the other keys are among those that are not of the first one.
    let remaining := values.filter fun value => !decide (key value = first)
    have grouped : (others.flatMap fun k => remaining.filter fun value => key value = k).Perm
        remaining := by
      refine ih distinct fun value member => ?_
      obtain ⟨known, apart⟩ := List.mem_filter.mp member
      exact (List.mem_cons.mp (covered value known)).resolve_left (by simpa using apart)
    -- Looking for another key among all values finds none of the first one's.
    have selected : ∀ k ∈ others, (values.filter fun value => key value = k) =
        remaining.filter fun value => key value = k := by
      intro k member
      have apart : k ≠ first := fun same => absent (same ▸ member)
      rw [List.filter_filter]
      refine List.filter_congr fun value _ => ?_
      by_cases same : key value = k <;> simp [same, apart]
    -- What the first key takes and what remains are the two sides of one filter.
    rw [List.flatMap_cons, List.flatMap_congr selected]
    exact (grouped.append_left _).trans (List.filter_append_perm _ values)

namespace Counters

variable {counters : Counters} {calls : List Call}

/-- What the calls for each of some entities come to adds up to what they come to together. -/
theorem sum_named (entities : List String) :
    EntityCounters.sum (entities.map fun entity =>
        (TotalCounters.of (Call.named entity calls)).forEntity) =
      (TotalCounters.of (entities.flatMap fun entity => Call.named entity calls)).forEntity := by
  -- The calls for one entity after another come to the sum of what they come to.
  induction entities with
  | nil => rfl
  | cons entity rest ih =>
    rw [List.map_cons, EntityCounters.sum_cons, ih, List.flatMap_cons, TotalCounters.of_append]
    rfl

/-- What calls come to is the sum of what the calls for each entity come to. -/
theorem Tally.sum_entities (tally : counters.Tally calls) :
    counters.total.forEntity = EntityCounters.sum (counters.entities.map Prod.snd) := by
  -- Each entry holds what the calls of its own name come to.
  have values : ∀ entry ∈ counters.entities,
      entry.2 = (TotalCounters.of (Call.named entry.1 calls)).forEntity := by
    intro entry member
    have given := tally.entities.value_of_mem member
    unfold EntityCounters.of? at given
    split at given
    · cases given
    · exact (Option.some.inj given).symm
  -- No call is left out, and none is counted twice as no key is listed twice.
  have covered : ∀ call ∈ calls, call.model.name ∈ counters.entities.map Prod.fst := by
    intro call member
    have among : call ∈ Call.named call.model.name calls :=
      List.mem_filter.mpr ⟨member, decide_eq_true rfl⟩
    have given : EntityCounters.of? calls call.model.name =
        some (TotalCounters.of (Call.named call.model.name calls)).forEntity :=
      if_neg fun none => List.not_mem_nil (List.isEmpty_iff.mp none ▸ among)
    exact tally.entities.mem_keys given
  -- Taken entity by entity, the calls are the same ones in another order.
  have regrouped : (TotalCounters.of ((counters.entities.map Prod.fst).flatMap fun entity =>
      Call.named entity calls)) = .of calls :=
    TotalCounters.of_perm (flatMap_filter_perm _ tally.entities.ascending.nodup_keys covered)
  calc
    counters.total.forEntity = (TotalCounters.of calls).forEntity := by rw [tally.total]
    _ = EntityCounters.sum ((counters.entities.map Prod.fst).map fun entity =>
          (TotalCounters.of (Call.named entity calls)).forEntity) := by
      rw [sum_named, regrouped]
    _ = EntityCounters.sum (counters.entities.map Prod.snd) := by
      rw [List.map_map]
      exact congrArg EntityCounters.sum (List.map_congr_left fun entry member =>
        (values entry member).symm)

end Counters

/-- Numbers as counters show them, which stay at the greatest number. -/
def TotalCounters.shown (total : TotalCounters) : TotalCounters where
  calls := min counterLimit total.calls
  succeeded := min counterLimit total.succeeded
  rejected := min counterLimit total.rejected
  criteria := min counterLimit total.criteria
  groups := min counterLimit total.groups
  sortKeys := min counterLimit total.sortKeys

/-- The numbers of an entity as counters show them. -/
def EntityCounters.shown (counter : EntityCounters) : EntityCounters where
  calls := min counterLimit counter.calls
  succeeded := min counterLimit counter.succeeded
  rejected := min counterLimit counter.rejected
  criteria := min counterLimit counter.criteria
  sortKeys := min counterLimit counter.sortKeys

/-- A counter that is moved up shows the sum, as far as it goes. -/
theorem saturatingAdd_min (number amount : Nat) :
    saturatingAdd (min counterLimit number) amount = min counterLimit (number + amount) := by
  -- A counter that stays at the greatest number would be past it with the sum as well.
  unfold saturatingAdd
  omega

/-- The counters show what some calls come to, each as far as a counter goes. -/
structure Counters.Shows (counters : Counters) (calls : List Call) : Prop where
  total : counters.total = (TotalCounters.of calls).shown
  entities : Tabulates counters.entities fun entity =>
    (EntityCounters.of? calls entity).map EntityCounters.shown
  rejections : Tabulates counters.rejections fun code =>
    (rejectionCount? calls code).map (min counterLimit)

/-- The entry of an entity without calls reads as if it held zeros. -/
theorem EntityCounters.getD_of? (calls : List Call) (entity : String) :
    ((of? calls entity).map shown).getD .zero =
      (TotalCounters.of (Call.named entity calls)).forEntity.shown := by
  -- An entity is missing only if no calls were made for it, which come to nothing.
  unfold of?
  split
  · rename_i none
    rw [List.isEmpty_iff.mp none]
    rfl
  · rfl

/-- The entry of a code without rejections reads as if it held zero. -/
theorem getD_rejectionCount? (calls : List Call) (code : String) :
    ((rejectionCount? calls code).map (min counterLimit)).getD 0 =
      min counterLimit (Call.rejectedWith code calls) := by
  -- A code is missing only if no call was rejected with it.
  unfold rejectionCount?
  split
  · rename_i none
    rw [none]
    rfl
  · rfl

namespace TotalCounters

/-- Numbers none of which is too great for a counter. -/
def Fits (total : TotalCounters) : Prop :=
  total.calls ≤ counterLimit ∧ total.criteria ≤ counterLimit ∧ total.groups ≤ counterLimit ∧
    total.sortKeys ≤ counterLimit

/-- Numbers that fit their counters are shown as they are. -/
theorem Fits.shown_eq {calls : List Call} (fits : (of calls).Fits) :
    (of calls).shown = of calls := by
  -- Calls that ended in either way are no more than all of them, so each number fits.
  obtain ⟨fewCalls, fewCriteria, fewGroups, fewKeys⟩ := fits
  have fewEnded : (of calls).succeeded + (of calls).rejected ≤ counterLimit :=
    calls_eq_succeeded_add_rejected calls ▸ fewCalls
  have fewSucceeded : (of calls).succeeded ≤ counterLimit := by omega
  have fewRejected : (of calls).rejected ≤ counterLimit := by omega
  rw [shown, Nat.min_eq_right fewCalls, Nat.min_eq_right fewSucceeded,
    Nat.min_eq_right fewRejected, Nat.min_eq_right fewCriteria, Nat.min_eq_right fewGroups,
    Nat.min_eq_right fewKeys]

/-- If the numbers of all calls fit, so do those of the calls for one entity. -/
theorem Fits.named {calls : List Call} (fits : (of calls).Fits) (entity : String) :
    (of (Call.named entity calls)).Fits := by
  -- All calls are those for the entity and the rest, and so come to no less.
  have whole := of_perm (List.filter_append_perm (fun call => call.model.name = entity) calls)
  rw [of_append] at whole
  obtain ⟨fewCalls, fewCriteria, fewGroups, fewKeys⟩ := fits
  rw [← whole] at fewCalls fewCriteria fewGroups fewKeys
  exact ⟨Nat.le_of_add_right_le fewCalls, Nat.le_of_add_right_le fewCriteria,
    Nat.le_of_add_right_le fewGroups, Nat.le_of_add_right_le fewKeys⟩

end TotalCounters

namespace Counters

variable {counters : Counters} {calls : List Call}

/-- Counters that have just been opened show that there were no calls. -/
theorem shows_opened (now : Int) : (opened now).Shows [] :=
  -- No calls come to zeros, and nothing is listed for them.
  ⟨rfl, Tabulates.nil, Tabulates.nil⟩

/-- The entity counters show one more call if those of its entity are changed to do so. -/
theorem Shows.entities_adjust (told : counters.Shows calls) (call : Call)
    {change : EntityCounters → EntityCounters}
    (changed : change (TotalCounters.of (Call.named call.model.name calls)).forEntity.shown =
      (TotalCounters.of (Call.named call.model.name calls ++ [call])).forEntity.shown) :
    Tabulates (adjust call.model.name .zero change counters.entities) fun entity =>
      (EntityCounters.of? (calls ++ [call]) entity).map EntityCounters.shown := by
  -- Only the entry of the call's own entity changes.
  refine told.entities.adjust ?_ fun other apart => ?_
  · rw [EntityCounters.of?_append_self, EntityCounters.getD_of?, changed]
    rfl
  · rw [EntityCounters.of?_append_of_ne _ _ apart]

/-- The events of a call let counters show that call too. -/
theorem Shows.call (told : counters.Shows calls) (call : Call) :
    (call.events.foldl record counters).Shows (calls ++ [call]) := by
  -- A call makes two events, one when it starts and one when it ends.
  have events : call.events = [.start call.model.name,
    Compiler.lastEvent call.model call.request call.outcome] := Compiler.events_eq _ _ _
  rw [events, List.foldl_cons, List.foldl_cons, List.foldl_nil]
  -- The start moves up the calls, and the end moves up the rest or the rejections.
  cases outcome : call.outcome with
  | ok query =>
    have code : call.code? = none := by rw [Call.code?, outcome]
    have succeeds : call.succeeds = true := by rw [Call.succeeds, code]; rfl
    refine ⟨?_, ?_, ?_⟩
    · rw [TotalCounters.of_append, TotalCounters.of_singleton_of_succeeds succeeds]
      simp [record, adjustEntity, Compiler.lastEvent, told.total, TotalCounters.shown,
        saturatingAdd_min]
    · -- Both events adjust the same entry, which comes to one adjustment.
      simp only [record, adjustEntity, Compiler.lastEvent, adjust_adjust]
      refine told.entities_adjust call ?_
      rw [TotalCounters.of_append, TotalCounters.of_singleton_of_succeeds succeeds]
      simp [TotalCounters.forEntity, EntityCounters.shown, saturatingAdd_min]
    · -- A call that succeeds has no code to count.
      simpa [record, adjustEntity, Compiler.lastEvent, rejectionCount?_append, code]
        using told.rejections
  -- A rejected call counts as rejected, for its entity and under its code.
  | error rejection =>
    have code : call.code? = some rejection.kind.code := by rw [Call.code?, outcome]
    have rejected : call.succeeds = false := by rw [Call.succeeds, code]; rfl
    refine ⟨?_, ?_, ?_⟩
    · rw [TotalCounters.of_append, TotalCounters.of_singleton_of_rejected rejected]
      simp [record, adjustEntity, Compiler.lastEvent, told.total, TotalCounters.shown,
        saturatingAdd_min]
    · simp only [record, adjustEntity, Compiler.lastEvent, adjust_adjust]
      refine told.entities_adjust call ?_
      rw [TotalCounters.of_append, TotalCounters.of_singleton_of_rejected rejected]
      simp [TotalCounters.forEntity, EntityCounters.shown, saturatingAdd_min]
    · refine told.rejections.adjust ?_ fun other apart => ?_
      · -- The count under its own code goes up by one, and the others stay.
        rw [rejectionCount?_append, if_pos code, getD_rejectionCount?, saturatingAdd_min]
        rfl
      · rw [rejectionCount?_append, if_neg]
        intro same
        exact apart (Option.some.inj (code.symm.trans same)).symm

/-- Counters show what calls come to as long as the numbers fit. -/
theorem Shows.tally (told : counters.Shows calls) (fits : (TotalCounters.of calls).Fits) :
    counters.Tally calls := by
  -- No entity has more calls than there are, nor has any code more rejections.
  refine ⟨told.total.trans fits.shown_eq, ?_, ?_⟩
  · -- What is shown of an entity is what there is, as that fits.
    have same : (fun entity => (EntityCounters.of? calls entity).map EntityCounters.shown) =
        EntityCounters.of? calls := by
      funext entity
      unfold EntityCounters.of?
      split
      · rfl
      · exact congrArg (fun total => some (TotalCounters.forEntity total))
          (fits.named entity).shown_eq
    exact same ▸ told.entities
  · -- A code is counted once for each call rejected with it.
    have same : (fun code => (rejectionCount? calls code).map (min counterLimit)) =
        rejectionCount? calls := by
      funext code
      have few : Call.rejectedWith code calls ≤ counterLimit :=
        Nat.le_trans List.countP_le_length fits.1
      unfold rejectionCount?
      split
      · rfl
      · exact congrArg some (Nat.min_eq_right few)
    exact same ▸ told.rejections

end Counters

end Criteria
