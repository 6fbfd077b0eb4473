import Criteria.Sorting.Insertion
import Criteria.Telemetry.Counters

/-! Reports on the counters. -/

namespace Criteria

/-- What a report says on the entities of one name. -/
structure EntitySummary where
  entity : String
  calls : Nat
  succeeded : Nat
  rejected : Nat
  /-- Criteria for each compilation that succeeded. -/
  averageCriteria : Double
  /-- Sort keys for each compilation that succeeded. -/
  averageSortKeys : Double
deriving DecidableEq

/-- A report: the counters as they are, and a summary for each entity. -/
structure Report where
  counters : Option Counters
  summaries : List EntitySummary
deriving DecidableEq

/-- A total divided by a number of calls, zero where there is none. -/
def average (total calls : Nat) : Double :=
  if calls = 0 then .zero else .ratio total calls

namespace EntitySummary

/-- The summary of an entity's counters. -/
def of (entity : String) (counters : EntityCounters) : EntitySummary where
  entity := entity
  calls := counters.calls
  succeeded := counters.succeeded
  rejected := counters.rejected
  averageCriteria := average counters.criteria counters.succeeded
  averageSortKeys := average counters.sortKeys counters.succeeded

/-- More calls come first, and among as many calls the lesser name. -/
def precedes (left right : EntitySummary) : Bool :=
  right.calls < left.calls
    || (left.calls = right.calls && textOrder left.entity.toList right.entity.toList = .lt)

end EntitySummary

/-- The report on a window, which is empty if the window was opened before the time asked for. -/
def Counters.report (counters : Counters) (since : Option Int) : Report :=
  let summaries := counters.entities.map fun (entity, counter) => EntitySummary.of entity counter
  let full : Report := ⟨some counters, Sorting.stableSort EntitySummary.precedes summaries⟩
  match since with
  | none => full
  | some requested => if counters.windowStart < requested then ⟨none, []⟩ else full

end Criteria
