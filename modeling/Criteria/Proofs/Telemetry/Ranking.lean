import Criteria.Proofs.Sorting.Stability
import Criteria.Proofs.Telemetry.Course
import Criteria.Proofs.Telemetry.Table

/-!
A report on the counters that events and resets lead to lists each entity once, the ones with more
calls first.
-/

namespace Criteria

namespace Counters

/-- What changes counters: an event that they take, or a reset. -/
inductive Change where
  | recorded (event : Event)
  | reset (now : Int)

/-- The counters after a change. -/
def change (counters : Counters) : Change → Counters
  | .recorded event => counters.record event
  | .reset now => .opened now

/-- The counters after changes in turn. -/
def changed (counters : Counters) (changes : List Change) : Counters :=
  changes.foldl change counters

/-- A change keeps the names of the entities ascending. -/
theorem change_isAscending {counters : Counters} (ascending : IsAscending counters.entities)
    (change : Change) : IsAscending (counters.change change).entities := by
  cases change with
  | recorded event =>
    -- Each event adjusts the entry of one entity.
    cases event <;> exact ascending.adjust _ _ _
  | reset now => exact .nil

/-- Changes in turn keep the names of the entities ascending. -/
theorem changed_isAscending {counters : Counters} (ascending : IsAscending counters.entities)
    (changes : List Change) : IsAscending (counters.changed changes).entities := by
  -- Each change is made to counters with ascending names.
  induction changes generalizing counters with
  | nil => exact ascending
  | cons change rest ih => exact ih (change_isAscending ascending change)

end Counters

/-- The changes that a moment makes to the counters. -/
def Moment.changes : List Nat × Moment → List Counters.Change
  -- A reset opens the counters anew from within a scope too.
  | (_, .reset now) => [.reset now]
  | ([], .called call) => call.events.map .recorded
  | _ => []

/-- Counters follow a moment by the changes that it makes. -/
theorem Counters.follow_eq_changed (counters : Counters) (moment : List Nat × Moment) :
    counters.follow moment = counters.changed (Moment.changes moment) := by
  -- The cases are those of the moment, and for a call whether a scope is open.
  rcases moment with ⟨_ | ⟨scope, outer⟩, _ | _ | call | now⟩ <;>
    simp [follow, Moment.changes, changed, change, List.foldl_map]

/-- The counters of a session are those that the changes of its course lead to. -/
theorem Action.counters_eq_changed (start : Int) (actions : List Action) :
    (runAll (.opened start) actions).1.counters =
      (Counters.opened start).changed
        ((Moment.withScopes [] (courses actions)).flatMap Moment.changes) := by
  -- The session goes along its course, and the changes are those of one moment after another.
  rw [(runAll_eq (.opened start) [] rfl actions).1]
  unfold Session.after Counters.changed
  rw [List.foldl_flatMap]
  refine congrArg (fun step => List.foldl step _ _) ?_
  funext counters moment
  exact counters.follow_eq_changed moment

namespace EntitySummary

/-- Whether a summary belongs before another: it has more calls, or as many and the lesser name. -/
def Outranks (first second : EntitySummary) : Prop :=
  second.calls < first.calls ∨
    (first.calls = second.calls ∧ textOrder first.entity.toList second.entity.toList = .lt)

/-- The comparison of a report puts a summary first exactly if it outranks the other. -/
theorem precedes_iff {first second : EntitySummary} :
    first.precedes second = true ↔ first.Outranks second := by
  -- Both ask for the calls first, and then for the names.
  simp [precedes, Outranks]

/-- What outranks a summary outranks all that it outranks. -/
theorem Outranks.trans {first second third : EntitySummary} (before : first.Outranks second)
    (after : second.Outranks third) : first.Outranks third := by
  -- More calls go before fewer, and names decide among as many.
  rcases before with more | ⟨level, lesser⟩ <;> rcases after with fewer | ⟨same, later⟩
  · exact .inl (Nat.lt_trans fewer more)
  · exact .inl (same ▸ more)
  · exact .inl (level ▸ fewer)
  · exact .inr ⟨level.trans same, textOrder_eq_lt_trans lesser later⟩

/-- The summary holds the numbers of an entity's counters, with averages that are zero where no
compilation succeeded. -/
structure Summarizes (summary : EntitySummary) (counter : EntityCounters) : Prop where
  calls : summary.calls = counter.calls
  succeeded : summary.succeeded = counter.succeeded
  rejected : summary.rejected = counter.rejected
  zero : counter.succeeded = 0 →
    summary.averageCriteria = .zero ∧ summary.averageSortKeys = .zero
  ratio : counter.succeeded ≠ 0 →
    summary.averageCriteria = .ratio counter.criteria counter.succeeded ∧
      summary.averageSortKeys = .ratio counter.sortKeys counter.succeeded

/-- The summary of an entity's counters summarizes them. -/
theorem of_summarizes (entity : String) (counter : EntityCounters) :
    (EntitySummary.of entity counter).Summarizes counter where
  -- The numbers are copied, and an average is taken where there is something to divide by.
  calls := rfl
  succeeded := rfl
  rejected := rfl
  zero none := by simp [EntitySummary.of, average, none]
  ratio some := by simp [EntitySummary.of, average, some]

end EntitySummary

/-- A report holds the counters, and their entities once each, in the order of their ranks. -/
structure Report.IsRankingOf (report : Report) (counters : Counters) : Prop where
  whole : report.counters = some counters
  entities : (report.summaries.map EntitySummary.entity).Perm (counters.entities.map Prod.fst)
  distinct : (report.summaries.map EntitySummary.entity).Nodup
  faithful : ∀ summary ∈ report.summaries, ∃ counter,
    counters.entities.lookup summary.entity = some counter ∧ summary.Summarizes counter
  ranked : report.summaries.Pairwise EntitySummary.Outranks

namespace Counters

variable {counters : Counters}

/-- The summaries of all entities, in the order of their names. -/
def summaries (counters : Counters) : List EntitySummary :=
  counters.entities.map fun entry => EntitySummary.of entry.1 entry.2

/-- Of two summaries in the order of their names, the one that outranks the other is put first. -/
theorem summaries_settle (ascending : IsAscending counters.entities) :
    counters.summaries.Pairwise
      (Sorting.Settles EntitySummary.precedes EntitySummary.Outranks) := by
  -- The names ascend, so only the calls can put the later summary first.
  refine List.pairwise_map.mpr (List.Pairwise.imp ?_ ascending)
  intro entry later lesser
  unfold Sorting.Settles
  split
  · rename_i first
    exact EntitySummary.precedes_iff.mp first
  · -- The later one has no more calls, and with as many calls its name is the greater one.
    rename_i notFirst
    rw [EntitySummary.precedes_iff] at notFirst
    rcases Nat.lt_or_ge later.2.calls entry.2.calls with more | atMost
    · exact .inl more
    · refine .inr ⟨?_, lesser⟩
      have atLeast : ¬entry.2.calls < later.2.calls := fun more => notFirst (.inl more)
      exact Nat.le_antisymm atMost (Nat.le_of_not_lt atLeast)

/-- A report that is not asked for a later time ranks the entities. -/
theorem ranked_isRankingOf (ascending : IsAscending counters.entities) :
    (⟨some counters, Sorting.stableSort EntitySummary.precedes counters.summaries⟩ :
      Report).IsRankingOf counters := by
  -- Sorting rearranges the summaries, so they are the same ones in another order.
  have sorted : (Sorting.stableSort EntitySummary.precedes counters.summaries).Perm
      counters.summaries := Sorting.stableSort_perm _
  have names : counters.summaries.map EntitySummary.entity = counters.entities.map Prod.fst := by
    simp [summaries, EntitySummary.of, Function.comp_def]
  have entities := sorted.map EntitySummary.entity
  rw [names] at entities
  refine ⟨rfl, entities, entities.nodup_iff.mpr ascending.nodup_keys, ?_, ?_⟩
  · -- Each summary is that of an entry, and each entry is found under its name.
    intro summary member
    obtain ⟨entry, present, rfl⟩ := List.mem_map.mp (sorted.mem_iff.mp member)
    exact ⟨entry.2, ascending.lookup_of_mem present, EntitySummary.of_summarizes entry.1 entry.2⟩
  · -- Outranking chains, so sorting by insertion ranks them all.
    refine Sorting.stableSort_pairwise ?_ (summaries_settle ascending)
    exact fun first second third before after => before.trans after

/-- A report is empty if it is asked for a time after the window was opened. -/
theorem report_of_late {since : Option Int}
    (late : ∃ requested, since = some requested ∧ counters.windowStart < requested) :
    counters.report since = ⟨none, []⟩ := by
  -- The requested time is compared with the start of the window.
  obtain ⟨requested, rfl, after⟩ := late
  exact if_pos after

/-- A report that is not asked for a later time has everything in it. -/
theorem report_of_not_late {since : Option Int}
    (early : ¬∃ requested, since = some requested ∧ counters.windowStart < requested) :
    counters.report since =
      ⟨some counters, Sorting.stableSort EntitySummary.precedes counters.summaries⟩ := by
  -- Only a requested time can make the report an empty one.
  cases since with
  | none => rfl
  | some requested => exact if_neg fun after => early ⟨requested, rfl, after⟩

end Counters

namespace Action

/-- A report has no part in the course of a session. -/
theorem courses_report (before later : List Action) (since : Option Int) :
    courses (before ++ .report since :: later) = courses (before ++ later) := by
  -- A report ends in no panic and adds no moment, wherever it stands.
  induction before with
  | nil => simp [courses, course, panics]
  | cons action rest ih => rw [List.cons_append, List.cons_append, courses, courses, ih]

/-- A session reaches the same state with a report in between as without it. -/
theorem runAll_report (session : Session) (before later : List Action) (since : Option Int) :
    (runAll session (before ++ .report since :: later)).1 =
      (runAll session (before ++ later)).1 := by
  -- Where a session gets depends on the course only, which is the same.
  have inForce := session.sink_eq_head?
  rw [(runAll_eq session _ inForce _).1, (runAll_eq session _ inForce _).1, courses_report]

end Action

/-- After any events and resets, a report is empty exactly if it is asked for a time after the
window was opened, and else it ranks the entities of the counters. A session that answers with a
report stays as it is, and so goes on as if there had been none.

The counters of a session are always such ones, those that the calls and the resets of its course
lead to. -/
theorem Counters.report_ranks_entities (start : Int) (changes : List Counters.Change)
    (since : Option Int) :
    let counters := (opened start).changed changes
    let report := counters.report since
    let late := ∃ requested, since = some requested ∧ counters.windowStart < requested
    (report = ⟨none, []⟩ ↔ late) ∧
    (¬late → report.IsRankingOf counters) ∧
    (∀ sink delivered, Action.run ⟨counters, sink, delivered⟩ (.report since) =
      (⟨counters, sink, delivered⟩, some (.reported report))) ∧
    (∀ session before later, (Action.runAll session (before ++ .report since :: later)).1 =
      (Action.runAll session (before ++ later)).1) ∧
    ∀ actions, (Action.runAll (.opened start) actions).1.counters =
      (opened start).changed
        ((Moment.withScopes [] (Action.courses actions)).flatMap Moment.changes) := by
  -- The names of the entities ascend after any changes, so none of them is there twice.
  intro counters report late
  have ascending : IsAscending counters.entities := @changed_isAscending (opened start) .nil changes
  refine ⟨⟨?_, report_of_late⟩, ?_, fun _ _ => rfl, fun session before later =>
    Action.runAll_report session before later since, Action.counters_eq_changed start⟩
  · -- A report with everything in it is not empty, as the counters are in it.
    intro empty
    by_contra early
    have full : report = _ := report_of_not_late early
    rw [empty] at full
    cases full
  · intro early
    have full : report = _ := report_of_not_late early
    rw [full]
    exact ranked_isRankingOf ascending

end Criteria
