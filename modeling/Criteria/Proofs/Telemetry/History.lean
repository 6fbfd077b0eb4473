import Criteria.Proofs.Telemetry.Tally
import Criteria.School
import Mathlib.Data.List.DropRight

/-!
The counters of a session are those of its history: the calls since the last reset for which no
scope was open.
-/

namespace Criteria

namespace Moment

/-- Whether a moment is a reset. -/
def isReset : Moment → Bool
  | .reset _ => true
  | .entered _ | .left | .called _ => false

/-- The call at a moment at which no scope is open. -/
def freeCall? : List Nat × Moment → Option Call
  -- The counters are not told of the calls in a scope, whose events a sink takes.
  | ([], .called call) => some call
  | _ => none

/-- The calls since the last reset for which no scope is open. -/
def history (moments : List (List Nat × Moment)) : List Call :=
  (moments.rtakeWhile fun moment => !moment.2.isReset).filterMap freeCall?

/-- A reset ends the history, and a call for which no scope is open becomes the last of it. -/
theorem history_append (moments : List (List Nat × Moment)) (moment : List Nat × Moment) :
    history (moments ++ [moment]) =
      if moment.2.isReset then [] else history moments ++ (freeCall? moment).toList := by
  -- The last moment is looked at first when the history is read backwards.
  rw [history, List.rtakeWhile_concat]
  cases moment.2.isReset with
  | true => rfl
  | false =>
    rw [Bool.not_false, if_pos rfl, List.filterMap_append]
    cases kept : freeCall? moment <;> simp [history, kept]

end Moment

/-- The history that actions leave behind if they begin with no scope open. -/
def Action.history (actions : List Action) : List Call :=
  Moment.history (Moment.withScopes [] (courses actions))

/-- Counters that follow the moments of a course show its history. -/
theorem Counters.shows_history (start : Int) (moments : List (List Nat × Moment)) :
    (moments.foldl Counters.follow (Counters.opened start)).Shows (Moment.history moments) := by
  -- The counters change with the last moment, so the moments are taken from the end.
  induction moments using List.reverseRecOn with
  | nil => exact Counters.shows_opened start
  | append_singleton moments moment ih =>
    rw [List.foldl_append, List.foldl_cons, List.foldl_nil, Moment.history_append]
    rcases moment with ⟨scopes, _ | _ | call | now⟩
    case reset => exact Counters.shows_opened now
    case called =>
      cases scopes with
      | nil => exact ih.call call
      -- A call within a scope is kept from the counters.
      | cons => simpa [Counters.follow, Moment.isReset, Moment.freeCall?] using ih
    all_goals simpa [Counters.follow, Moment.isReset, Moment.freeCall?] using ih

namespace Action

/-- After any actions the counters hold what the calls of their history come to, as long as the
numbers fit: the calls since the last reset that no sink took the events of. In total there are as
many calls as entities have together, and likewise for all that entities count. -/
theorem counters_tally_history (start : Int) (actions : List Action)
    (fits : (TotalCounters.of (history actions)).Fits) :
    let counters := (runAll (.opened start) actions).1.counters
    let entities := counters.entities.map Prod.snd
    counters.Tally (history actions) ∧
      counters.total.calls = counters.total.succeeded + counters.total.rejected ∧
      counters.total.calls = (entities.map EntityCounters.calls).sum ∧
      counters.total.succeeded = (entities.map EntityCounters.succeeded).sum ∧
      counters.total.rejected = (entities.map EntityCounters.rejected).sum ∧
      counters.total.criteria = (entities.map EntityCounters.criteria).sum ∧
      counters.total.sortKeys = (entities.map EntityCounters.sortKeys).sum := by
  -- The counters follow the course of the actions, and show its history as long as it fits.
  intro counters entities
  have reached : counters =
      (Moment.withScopes [] (courses actions)).foldl Counters.follow (.opened start) :=
    congrArg Session.counters (runAll_eq (.opened start) [] rfl actions).1
  have tally : counters.Tally (history actions) := by
    rw [reached]
    exact (Counters.shows_history start _).tally fits
  -- The totals are the sums over the entries, all of them in one equation.
  have sums : counters.total.forEntity = EntityCounters.sum entities := tally.sum_entities
  refine ⟨tally, ?_, congrArg EntityCounters.calls sums, congrArg EntityCounters.succeeded sums,
    congrArg EntityCounters.rejected sums, congrArg EntityCounters.criteria sums,
    congrArg EntityCounters.sortKeys sums⟩
  -- Every call counted in the total has either succeeded or been rejected.
  rw [tally.total]
  exact TotalCounters.calls_eq_succeeded_add_rejected _

/-- Actions some of whose calls come before a reset, within a scope that a panic ends, or under
settings that are refused, so that two calls are left: a query and a rejection. -/
def mixedActions : List Action :=
  [ .compile School.student ⟨none, [⟨"gpa", .ascending⟩]⟩ .default,
    .reset 5,
    .catching
      [ .within 1
          [ .compile School.community ⟨none, []⟩ .default,
            .within 2 [.panic],
            .reset 7 ] ],
    .compile School.student
      ⟨some (.group .not [.criterion ⟨"isFullTime", .isTrue, []⟩]), [⟨"gpa", .descending⟩]⟩
      ⟨2, true⟩,
    .search School.community ⟨some (.group .or []), []⟩ [],
    .compile School.student ⟨none, []⟩ ⟨0, true⟩ ]

/-- Of the mixed actions the counters hold the last query and the last rejection. -/
theorem counters_tally_history_mixedActions :
    (TotalCounters.of (history mixedActions)).Fits ∧
      TotalCounters.of (history mixedActions) = ⟨2, 1, 1, 1, 1, 1⟩ ∧
      (runAll (.opened 0) mixedActions).1.counters.Tally (history mixedActions) := by
  -- The history is computed, and its numbers are far below the limit.
  have total : TotalCounters.of (history mixedActions) = ⟨2, 1, 1, 1, 1, 1⟩ := rfl
  have fits : (TotalCounters.of (history mixedActions)).Fits := by
    rw [total]
    exact ⟨by decide, by decide, by decide, by decide⟩
  exact ⟨fits, total, (counters_tally_history 0 mixedActions fits).1⟩

end Action

end Criteria
