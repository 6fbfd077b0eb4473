import Criteria.Proofs.Compiler.Outcome
import Criteria.Telemetry.Event

/-! A compilation that succeeds has met every criterion and every group, and tells so at its end. -/

namespace Criteria

namespace Compilation

variable {α β : Type} {criteria groups criteria' groups' : Nat}

/-- A compilation meets so many criteria and groups whenever it succeeds. -/
def Meets (compilation : Compilation α) (criteria groups : Nat) : Prop :=
  ∀ progress value after, compilation.run.run progress = (.ok value, after) →
    after.criteria = progress.criteria + criteria ∧ after.groups = progress.groups + groups

/-- A compilation that does nothing meets nothing. -/
theorem meets_pure (value : α) : (pure value : Compilation α).Meets 0 0 := by
  -- Nothing fails here, and the progress stays as it is.
  intro progress _ after succeeded
  cases succeeded
  exact ⟨rfl, rfl⟩

/-- A check meets nothing. -/
theorem meets_check (result : Except Rejection α) : (check result).Meets 0 0 := by
  -- A check that is passed leaves the progress as it is.
  intro progress _ after succeeded
  cases succeeded
  exact ⟨rfl, rfl⟩

/-- Recording a settled criterion meets nothing, as the criterion was counted before. -/
theorem meets_record (resolution : Resolution) : (record resolution).Meets 0 0 := by
  -- Only the record of settled criteria grows.
  intro progress _ after succeeded
  cases succeeded
  exact ⟨rfl, rfl⟩

/-- Counting a criterion meets that one. -/
theorem meets_meetCriterion : meetCriterion.Meets 1 0 := by
  -- The one count goes up, and the other one stays.
  intro progress _ after succeeded
  cases succeeded
  exact ⟨rfl, rfl⟩

/-- Counting a group meets that one. -/
theorem meets_meetGroup : meetGroup.Meets 0 1 := by
  -- The one count goes up, and the other one stays.
  intro progress _ after succeeded
  cases succeeded
  exact ⟨rfl, rfl⟩

/-- One compilation after another meets what both of them meet. -/
theorem Meets.bind {compilation : Compilation α} {next : α → Compilation β}
    (first : compilation.Meets criteria groups)
    (second : ∀ value, (next value).Meets criteria' groups') :
    (compilation >>= next).Meets (criteria + criteria') (groups + groups') := by
  -- The second part begins at the progress that the first one has made.
  intro progress value after succeeded
  rw [ExceptT.run_bind, StateT.run_bind] at succeeded
  rcases reached : compilation.run.run progress with ⟨outcome, between⟩
  rw [reached] at succeeded
  cases outcome with
  -- A first part that fails lets the whole fail.
  | error rejection => cases succeeded
  -- If both succeed, their counts add up.
  | ok middle =>
    obtain ⟨firstCriteria, firstGroups⟩ := first progress middle between reached
    obtain ⟨thenCriteria, thenGroups⟩ := second middle between value after succeeded
    constructor <;> omega

/-- What comes after a compilation that meets nothing is all that is met. -/
theorem Meets.after {compilation : Compilation α} {next : α → Compilation β}
    (first : compilation.Meets 0 0) (second : ∀ value, (next value).Meets criteria groups) :
    (compilation >>= next).Meets criteria groups := by
  -- Nothing is added in front.
  have both := first.bind second
  rwa [Nat.zero_add, Nat.zero_add] at both

/-- What comes before a compilation that meets nothing is all that is met. -/
theorem Meets.before {compilation : Compilation α} {next : α → Compilation β}
    (first : compilation.Meets criteria groups) (second : ∀ value, (next value).Meets 0 0) :
    (compilation >>= next).Meets criteria groups :=
  -- The second step meets nothing, so nothing is added.
  first.bind second

end Compilation

/-- How many criteria a request has, which are those of its filter. -/
def SearchRequest.criterionCount (request : SearchRequest) : Nat :=
  (request.filter.map Filter.criterionCount).getD 0

/-- How many groups a request has, which are those of its filter. -/
def SearchRequest.groupCount (request : SearchRequest) : Nat :=
  (request.filter.map Filter.groupCount).getD 0

namespace Compiler

variable {P O : Type} (compiler : Compiler P O) (model : EntityModel)

/-- Compiling a criterion counts nothing, as its node was counted before. -/
theorem compileCriterion_meets (condition : Criterion) :
    (compiler.compileCriterion model condition).Meets 0 0 := by
  -- Settling is a check, and what follows it is a record and another check.
  refine (Compilation.meets_check _).after fun ⟨subject, entry, operands⟩ => ?_
  exact (Compilation.meets_record _).after fun _ => Compilation.meets_check _

mutual

/-- A filter is compiled by meeting each of its criteria and groups once. -/
theorem compileAt_meets (depth : Nat) : ∀ filter : Filter,
    (compiler.compileAt model depth filter).Meets filter.criterionCount filter.groupCount
  | .criterion condition => by
    rw [compileAt, Filter.criterionCount, Filter.groupCount]
    -- A criterion is counted once the depth check is passed.
    refine (Compilation.meets_check _).after fun _ => ?_
    exact Compilation.meets_meetCriterion.before fun _ =>
      compiler.compileCriterion_meets model condition
  | .group combinator children => by
    rw [compileAt, Filter.criterionCount, Filter.groupCount]
    refine (Compilation.meets_check _).after fun _ => ?_
    -- The group itself is met first, then all that stands below it.
    rw [← Nat.zero_add (Filter.criterionCounts children)]
    refine Compilation.meets_meetGroup.bind fun _ => ?_
    refine (Compilation.meets_check _).after fun _ => ?_
    exact (compileAllAt_meets (depth + 1) children).before fun _ => Compilation.meets_check _

/-- Filters that stand side by side are compiled by meeting what is in each of them. -/
theorem compileAllAt_meets (depth : Nat) : ∀ filters : List Filter,
    (compiler.compileAllAt model depth filters).Meets
      (Filter.criterionCounts filters) (Filter.groupCounts filters)
  -- Without filters, there is nothing to meet.
  | [] => by
    rw [compileAllAt, Filter.criterionCounts, Filter.groupCounts]
    exact Compilation.meets_pure []
  | child :: rest => by
    rw [compileAllAt, Filter.criterionCounts, Filter.groupCounts]
    -- The first filter is met, and then the others are.
    refine (compileAt_meets depth child).bind fun _ => ?_
    exact (compileAllAt_meets depth rest).before fun _ => Compilation.meets_pure _

end

/-- A request is compiled by meeting each criterion and each group of its filter once. -/
theorem compileRequest_meets (request : SearchRequest) :
    (compiler.compileRequest model request).Meets request.criterionCount request.groupCount := by
  -- Sort keys are compiled last and meet nothing.
  rcases request with ⟨filter, sort⟩
  unfold compileRequest SearchRequest.criterionCount SearchRequest.groupCount
  cases filter with
  -- Without a filter there is nothing to meet at all.
  | none =>
    refine (Compilation.meets_pure _).after fun _ => ?_
    exact (Compilation.meets_check _).after fun _ => Compilation.meets_pure _
  | some filter =>
    refine (compiler.compileAt_meets model 1 filter).before fun _ => ?_
    exact (Compilation.meets_check _).after fun _ => Compilation.meets_pure _

/-- The event at the end of a compilation that came to a query or was rejected. -/
def lastEvent (model : EntityModel) (request : SearchRequest) :
    Except Rejection (Query P O) → Event
  | .ok _ =>
    .finish model.name request.criterionCount request.groupCount request.sort.length
  | .error rejection => .rejected model.name rejection.kind

/-- A compilation tells of its start and of its outcome, of a query with the size of the request. -/
theorem events_eq (request : SearchRequest) :
    compiler.events model request =
      [.start model.name, lastEvent model request (compiler.compile model request)] := by
  -- The last event is made from the outcome and from the progress at the end.
  unfold events compile
  rcases ran : compiler.run model request with ⟨outcome, progress⟩
  cases outcome with
  -- A rejection is told without any counts.
  | error rejection => rfl
  | ok query =>
    -- Nothing was met before the compilation, so all that was met is in the request.
    obtain ⟨criteria, groups⟩ := compiler.compileRequest_meets model request _ _ _ ran
    simp only [Progress.none, Nat.zero_add] at criteria groups
    simp only [lastEvent, criteria, groups]

end Compiler

end Criteria
