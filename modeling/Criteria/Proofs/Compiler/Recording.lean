import Criteria.Proofs.Compiler.Counting
import Criteria.Proofs.Compiler.Faults
import Mathlib.Data.List.TakeWhile

/-!
What a compilation tells its observers: its start, the criteria before the first node with a fault,
and its outcome.
-/

namespace Criteria

namespace Compilation

variable {α β : Type} {told later : List Resolution}

/-- A compilation records some settled criteria, whether it succeeds after that or fails. -/
def Records (compilation : Compilation α) (told : List Resolution) : Prop :=
  -- They are added at the end of all that was recorded before.
  ∀ progress, (compilation.run.run progress).2.resolved = progress.resolved ++ told

/-- A compilation that does nothing records nothing. -/
theorem records_pure (value : α) : (pure value : Compilation α).Records [] :=
  fun _ => (List.append_nil _).symm

/-- A check records nothing. -/
theorem records_check (result : Except Rejection α) : (check result).Records [] :=
  fun _ => (List.append_nil _).symm

/-- Counting a criterion records nothing, as it is not settled yet. -/
theorem records_meetCriterion : meetCriterion.Records [] :=
  fun _ => (List.append_nil _).symm

/-- Counting a group records nothing. -/
theorem records_meetGroup : meetGroup.Records [] :=
  fun _ => (List.append_nil _).symm

/-- Recording a settled criterion records that one. -/
theorem records_record (resolution : Resolution) : (record resolution).Records [resolution] :=
  fun _ => rfl

namespace Records

variable {compilation : Compilation α} {next : α → Compilation β}

/-- What follows a compilation starts from a progress that holds what was recorded, and is reached
unless the compilation fails. -/
theorem exists_run_bind {result : Except Rejection α} (first : compilation.Records told)
    (answers : compilation.Answers result) (progress : Progress) :
    ∃ between : Progress, between.resolved = progress.resolved ++ told ∧
      (compilation >>= next).run.run progress =
        match result with
        | .ok value => (next value).run.run between
        | .error rejection => (.error rejection, between) := by
  -- The second part runs from where the first one stops, if it is reached.
  have recorded := first progress
  have answered := answers progress
  rcases reached : compilation.run.run progress with ⟨outcome, between⟩
  rw [reached] at recorded answered
  refine ⟨between, recorded, ?_⟩
  rw [ExceptT.run_bind, StateT.run_bind, reached]
  subst answered
  cases outcome <;> rfl

/-- One compilation after another that succeeds records what both of them record. -/
theorem bind {value : α} (first : compilation.Records told)
    (succeeds : compilation.Answers (.ok value)) (second : (next value).Records later) :
    (compilation >>= next).Records (told ++ later) := by
  -- What is recorded later is added behind what was recorded before.
  intro progress
  obtain ⟨between, recorded, continues⟩ := first.exists_run_bind succeeds progress
  rw [continues, second between, recorded, List.append_assoc]

/-- What comes after a compilation that fails is not reached, and so records nothing. -/
theorem broken {rejection : Rejection} (first : compilation.Records told)
    (fails : compilation.Answers (.error rejection)) : (compilation >>= next).Records told := by
  -- The run ends at the progress of the first part.
  intro progress
  obtain ⟨between, recorded, ends⟩ := first.exists_run_bind fails progress
  rw [ends]
  exact recorded

/-- What comes after a compilation that records nothing is all that is recorded. -/
theorem after {value : α} (first : compilation.Records [])
    (succeeds : compilation.Answers (.ok value)) (second : (next value).Records told) :
    (compilation >>= next).Records told :=
  first.bind succeeds second

/-- What comes before a compilation that records nothing is all that is recorded. -/
theorem before {result : Except Rejection α} (first : compilation.Records told)
    (answers : compilation.Answers result) (second : ∀ value, (next value).Records []) :
    (compilation >>= next).Records told := by
  -- It makes no difference whether the second part is reached.
  cases result with
  | error rejection => exact first.broken answers
  | ok value =>
    have both := first.bind answers (second value)
    rwa [List.append_nil] at both

end Records

end Compilation

/-- The criterion that a node is, if it is one. -/
def Filter.ownCriterion? : Filter → Option Criterion
  | .criterion condition => some condition
  | .group _ _ => none

/-- The criteria among the nodes of a filter are the criteria of the filter. -/
theorem Filter.filterMap_ownCriterion?_preorder (filter : Filter) (depth : Nat) :
    ((filter.preorder depth).filterMap fun node => node.2.ownCriterion?) = filter.criteria := by
  -- The induction follows the tree, with the depth left open for the children.
  induction filter generalizing depth with
  | criterion condition => rfl
  | group combinator children ih =>
    -- The group itself is no criterion, so all of them are those of the children.
    rw [preorder, criteria, preorders_eq_flatMap, allCriteria_eq_flatMap,
      List.filterMap_cons_none rfl, List.filterMap_flatMap]
    exact List.flatMap_congr fun child member => ih child member (depth + 1)

/-- The nodes of a request in preorder, each with its depth; there are none without a filter. -/
def SearchRequest.nodes (request : SearchRequest) : List (Nat × Filter) :=
  (request.filter.map (Filter.preorder 1)).getD []

/-- The criteria among the nodes of a request are the criteria of the request. -/
theorem SearchRequest.filterMap_ownCriterion?_nodes (request : SearchRequest) :
    (request.nodes.filterMap fun node => node.2.ownCriterion?) = request.criteria := by
  -- Without a filter, there are neither nodes nor criteria.
  unfold nodes criteria
  cases request.filter with
  | none => rfl
  | some filter => exact filter.filterMap_ownCriterion?_preorder 1

/-- What is told of a criterion: its path and the kind that this leads to, its operation, and the
number of its operands. -/
structure Criterion.IsToldAs (model : EntityModel) (condition : Criterion)
    (resolution : Resolution) : Prop where
  path : resolution.path = .ofText condition.field
  kind : model.kindOf? condition.field = some resolution.kind
  operation : resolution.operation = condition.operation
  operandCount : resolution.operandCount = condition.operands.length

namespace Compiler

variable {P O : Type} (compiler : Compiler P O) (model : EntityModel)

/-- Whether nothing is wrong with a node. -/
def isFaultless (node : Nat × Filter) : Bool :=
  (compiler.nodeFaults model node).isEmpty

/-- The criteria that stand before the first of some nodes that has a fault. -/
def criteriaBeforeFault (nodes : List (Nat × Filter)) : List Criterion :=
  -- The node with the fault is left out, and so is all that comes after it.
  (nodes.takeWhile (compiler.isFaultless model)).filterMap fun node => node.2.ownCriterion?

/-- A compilation tells of nodes if it records the criteria before the first one with a fault. -/
def TellsOf {α : Type} (compilation : Compilation α) (nodes : List (Nat × Filter)) : Prop :=
  ∃ told, List.Forall₂ (Criterion.IsToldAs model) (compiler.criteriaBeforeFault model nodes) told ∧
    compilation.Records told

/-- The log entry at the end of a compilation that came to a query or was rejected. -/
def lastEntry (model : EntityModel) (request : SearchRequest) :
    Except Rejection (Query P O) → LogEntry
  | .ok _ => .finish model.name request.criterionCount request.groupCount
  | .error rejection => .rejected model.name rejection

variable {compiler} {model}

section Faultless

variable {nodes later : List (Nat × Filter)}

/-- Nodes are all gone through before a fault exactly if they have none. -/
theorem takeWhile_isFaultless_iff :
    nodes.takeWhile (compiler.isFaultless model) = nodes ↔
      nodes.flatMap (compiler.nodeFaults model) = [] := by
  -- Both say that every node is without a fault.
  simp [List.takeWhile_eq_self_iff, List.flatMap_eq_nil_iff, isFaultless]

/-- If no node has a fault, all criteria stand before the first fault. -/
theorem criteriaBeforeFault_eq_filterMap
    (faultless : nodes.flatMap (compiler.nodeFaults model) = []) :
    compiler.criteriaBeforeFault model nodes =
      nodes.filterMap fun node => node.2.ownCriterion? := by
  -- All nodes are gone through, and the criteria are picked from them.
  rw [criteriaBeforeFault, takeWhile_isFaultless_iff.mpr faultless]

/-- Behind nodes without a fault, the first one may still come. -/
theorem criteriaBeforeFault_append
    (faultless : nodes.flatMap (compiler.nodeFaults model) = []) :
    compiler.criteriaBeforeFault model (nodes ++ later) =
      compiler.criteriaBeforeFault model nodes ++ compiler.criteriaBeforeFault model later := by
  -- The nodes in front are all gone through, so those behind them are looked at next.
  have whole := takeWhile_isFaultless_iff.mpr faultless
  rw [criteriaBeforeFault, List.takeWhile_append, if_pos (congrArg List.length whole),
    List.filterMap_append, ← criteriaBeforeFault_eq_filterMap faultless, ← criteriaBeforeFault]

/-- Behind a node with a fault, no criterion stands before the first one. -/
theorem criteriaBeforeFault_append_of_fault
    (faulty : nodes.flatMap (compiler.nodeFaults model) ≠ []) :
    compiler.criteriaBeforeFault model (nodes ++ later) =
      compiler.criteriaBeforeFault model nodes := by
  -- A beginning as long as all the nodes would be all of them.
  have shorter : (nodes.takeWhile (compiler.isFaultless model)).length ≠ nodes.length := by
    intro whole
    apply faulty
    exact takeWhile_isFaultless_iff.mp ((List.takeWhile_prefix _).eq_of_length whole)
  rw [criteriaBeforeFault, List.takeWhile_append, if_neg shorter, ← criteriaBeforeFault]

/-- Nothing stands before a node with a fault. -/
theorem criteriaBeforeFault_cons_of_fault {node : Nat × Filter}
    (faulty : compiler.nodeFaults model node ≠ []) :
    compiler.criteriaBeforeFault model (node :: later) = [] := by
  -- The node with the fault is the first one.
  simp [criteriaBeforeFault, isFaultless, faulty]

/-- A group without a fault of its own is gone through to its children. -/
theorem criteriaBeforeFault_cons_group {depth : Nat} {combinator : Combinator}
    {children : List Filter}
    (faultless : compiler.nodeFaults model (depth, .group combinator children) = []) :
    compiler.criteriaBeforeFault model ((depth, .group combinator children) :: later) =
      compiler.criteriaBeforeFault model later := by
  -- The group is passed, and it is no criterion.
  simp [criteriaBeforeFault, isFaultless, faultless, Filter.ownCriterion?]

/-- A criterion without a fault stands before the first fault. -/
theorem criteriaBeforeFault_criterion {depth : Nat} {condition : Criterion}
    (faultless : compiler.nodeFaults model (depth, .criterion condition) = []) :
    compiler.criteriaBeforeFault model [(depth, .criterion condition)] = [condition] := by
  -- The criterion is passed, and it is the only node.
  simp [criteriaBeforeFault, isFaultless, faultless, Filter.ownCriterion?]

end Faultless

namespace TellsOf

variable {α β : Type} {compilation : Compilation α} {next : α → Compilation β}
  {nodes later : List (Nat × Filter)}

/-- A compilation that records nothing tells of nodes before whose first fault there is nothing. -/
theorem nothing (none : compiler.criteriaBeforeFault model nodes = [])
    (silent : compilation.Records []) : compiler.TellsOf model compilation nodes := by
  -- There are as many criteria as there are records of them, which is none.
  refine ⟨[], ?_, silent⟩
  rw [none]
  exact .nil

/-- One compilation after another tells of the nodes of the first and then of the second, if the
first fails exactly with a fault of its own nodes. -/
theorem bind {result : Except Rejection α} (first : compiler.TellsOf model compilation nodes)
    (answers : compilation.Answers result)
    (reports : Reports result (nodes.flatMap (compiler.nodeFaults model)))
    (second : ∀ value, compiler.TellsOf model (next value) later) :
    compiler.TellsOf model (compilation >>= next) (nodes ++ later) := by
  -- Whether the second part is reached depends on whether the first nodes have a fault.
  obtain ⟨told, each, records⟩ := first
  cases result with
  | error rejection =>
    -- The second part is not reached, and its nodes stand behind the fault.
    refine ⟨told, ?_, records.broken answers⟩
    rw [criteriaBeforeFault_append_of_fault reports.ne_nil]
    exact each
  | ok value =>
    -- Without a fault, both parts record theirs in turn.
    have faultless : nodes.flatMap (compiler.nodeFaults model) = [] := reports
    obtain ⟨toldLater, eachLater, recordsLater⟩ := second value
    refine ⟨told ++ toldLater, ?_, records.bind answers recordsLater⟩
    rw [criteriaBeforeFault_append faultless]
    exact List.rel_append each eachLater

/-- What comes before a compilation that records nothing tells of all the nodes. -/
theorem before {result : Except Rejection α} (first : compiler.TellsOf model compilation nodes)
    (answers : compilation.Answers result) (second : ∀ value, (next value).Records []) :
    compiler.TellsOf model (compilation >>= next) nodes := by
  -- The nodes are those of the first part.
  obtain ⟨told, each, records⟩ := first
  exact ⟨told, each, records.before answers second⟩

/-- What comes after a compilation that records nothing tells of all the nodes. -/
theorem after {value : α} (silent : compilation.Records [])
    (succeeds : compilation.Answers (.ok value))
    (second : compiler.TellsOf model (next value) nodes) :
    compiler.TellsOf model (compilation >>= next) nodes := by
  -- The nodes are those of the second part.
  obtain ⟨told, each, records⟩ := second
  exact ⟨told, each, silent.after succeeds records⟩

end TellsOf

/-- A criterion that can be settled is recorded as it was settled. -/
theorem compileCriterion_records {condition : Criterion} {subject : Attribute} {entry : Entry}
    {operands : List Value}
    (settled : compiler.settle model condition = .ok (subject, entry, operands)) :
    (compiler.compileCriterion model condition).Records
      [⟨subject.path, subject.kind, condition.operation, operands.length⟩] := by
  unfold compileCriterion
  rw [settled]
  -- Between settling and building the criterion is recorded.
  refine (Compilation.records_check _).after (Compilation.answers_check _) ?_
  exact (Compilation.records_record _).before (Compilation.answers_record _) fun _ =>
    Compilation.records_check _

/-- A criterion that cannot be settled is not recorded. -/
theorem compileCriterion_records_nil {condition : Criterion} {rejection : Rejection}
    (refused : compiler.settle model condition = .error rejection) :
    (compiler.compileCriterion model condition).Records [] := by
  -- What would be recorded comes after settling.
  unfold compileCriterion
  rw [refused]
  exact (Compilation.records_check _).broken (Compilation.answers_check _)

/-- A settled criterion is told of as it stands in the request. -/
theorem isToldAs_of_settle {condition : Criterion} {subject : Attribute} {entry : Entry}
    {operands : List Value}
    (settled : compiler.settle model condition = .ok (subject, entry, operands)) :
    condition.IsToldAs model
      ⟨subject.path, subject.kind, condition.operation, operands.length⟩ := by
  -- The attribute that was settled has the path and the kind, and preparing keeps the number of
  -- operands.
  obtain ⟨resolved, -, -, -, prepared⟩ := (settle_eq_ok_iff _ _).mp settled
  obtain ⟨path, kind, -⟩ := model.resolve_eq_ok resolved
  exact ⟨path, kind, rfl, prepared.length_eq⟩

/-- A filter that stands too deep is told of no further. -/
theorem tellsOf_checkDepth {α : Type} {next : Unit → Compilation α} {depth : Nat} {filter : Filter}
    {later : List (Nat × Filter)}
    (second : depth ≤ compiler.config.maxDepth →
      compiler.TellsOf model (next ()) ((depth, filter) :: later)) :
    compiler.TellsOf model (Compilation.check (compiler.checkDepth depth) >>= next)
      ((depth, filter) :: later) := by
  -- A node that is too deep has a fault, and the check fails with it.
  have reports : Reports (compiler.checkDepth depth) _ := checkDepth_reports depth
  cases checked : compiler.checkDepth depth with
  | error rejection =>
    rw [checked] at reports
    have faulty : compiler.nodeFaults model (depth, filter) ≠ [] :=
      List.append_ne_nil_of_left_ne_nil reports.ne_nil _
    exact .nothing (criteriaBeforeFault_cons_of_fault faulty)
      ((Compilation.records_check _).broken (Compilation.answers_check _))
  -- Otherwise the check is passed, and the rest decides.
  | ok =>
    exact .after (Compilation.records_check _) (Compilation.answers_check _)
      (second (compiler.checkDepth_eq_ok_iff.mp checked))

/-- A node that stands high enough has no fault but its own. -/
theorem nodeFaults_eq_ownFaults {depth : Nat} (within : depth ≤ compiler.config.maxDepth)
    (filter : Filter) :
    compiler.nodeFaults model (depth, filter) = filter.ownFaults compiler.registry model := by
  -- The faults of the depth come in front of those of the node.
  rw [nodeFaults, if_neg (Nat.not_lt.mpr within), List.nil_append]

/-- A criterion that stands high enough is recorded unless it has a fault. -/
theorem compileCriterion_tells (only : compiler.registry.OnlyStandard) {depth : Nat}
    (condition : Criterion) (within : depth ≤ compiler.config.maxDepth) :
    compiler.TellsOf model (compiler.compileCriterion model condition)
      [(depth, .criterion condition)] := by
  -- Its faults are those that settling reports.
  have reports : Reports (compiler.settle model condition)
      (compiler.nodeFaults model (depth, .criterion condition)) := by
    rw [nodeFaults_eq_ownFaults within]
    exact settle_reports only condition
  cases settled : compiler.settle model condition with
  -- A criterion that is not settled has a fault.
  | error rejection =>
    rw [settled] at reports
    exact .nothing (criteriaBeforeFault_cons_of_fault reports.ne_nil)
      (compileCriterion_records_nil settled)
  -- One that is settled has none, and is told of as it stands.
  | ok parts =>
    obtain ⟨subject, entry, operands⟩ := parts
    rw [settled] at reports
    refine ⟨_, ?_, compileCriterion_records settled⟩
    rw [criteriaBeforeFault_criterion reports]
    exact .cons (isToldAs_of_settle settled) .nil

/-- Filters that stand side by side are told of one after the other. -/
theorem compileAllAt_tells (only : compiler.registry.OnlyStandard) {depth : Nat}
    {filters : List Filter}
    (each : ∀ child ∈ filters,
      compiler.TellsOf model (compiler.compileAt model depth child) (child.preorder depth)) :
    compiler.TellsOf model (compiler.compileAllAt model depth filters)
      (Filter.preorders depth filters) := by
  induction filters with
  | nil =>
    rw [compileAllAt]
    -- Without filters, there is nothing to tell.
    exact .nothing rfl (Compilation.records_pure [])
  | cons child rest ih =>
    have others := ih fun other member => each other (List.mem_cons_of_mem child member)
    rw [compileAllAt, Filter.preorders]
    -- The rest is reached if and only if no node of the first filter has a fault.
    refine (each child List.mem_cons_self).bind (compiler.compileAt_answers model depth child)
      (outcomeAt_reports only child depth) fun image => ?_
    exact others.before (compiler.compileAllAt_answers model depth rest) fun _ =>
      Compilation.records_pure _

/-- A filter is told of up to its first node with a fault, in preorder. -/
theorem compileAt_tells (only : compiler.registry.OnlyStandard) (filter : Filter) (depth : Nat) :
    compiler.TellsOf model (compiler.compileAt model depth filter) (filter.preorder depth) := by
  -- A node is checked before its children, and these are compiled from left to right.
  induction filter generalizing depth with
  | criterion condition =>
    rw [compileAt, Filter.preorder]
    refine tellsOf_checkDepth fun within => ?_
    -- Counting the criterion records nothing.
    refine .after Compilation.records_meetCriterion Compilation.answers_meetCriterion ?_
    exact compileCriterion_tells only condition within
  | group combinator children ih =>
    rw [compileAt, Filter.preorder]
    refine tellsOf_checkDepth fun within => ?_
    refine .after Compilation.records_meetGroup Compilation.answers_meetGroup ?_
    -- What is wrong with the group itself is the number of its children.
    have reports : Reports (Group.validate ⟨combinator, children⟩)
        (compiler.nodeFaults model (depth, .group combinator children)) := by
      rw [nodeFaults_eq_ownFaults within]
      exact validate_reports combinator children
    cases valid : Group.validate ⟨combinator, children⟩ with
    -- A group with a fault is told of no further.
    | error rejection =>
      rw [valid] at reports
      exact .nothing (criteriaBeforeFault_cons_of_fault reports.ne_nil)
        ((Compilation.records_check _).broken (Compilation.answers_check _))
    -- From one without a fault, its children are told of.
    | ok =>
      rw [valid] at reports
      have children_told := compileAllAt_tells only fun child member => ih child member (depth + 1)
      refine .after (Compilation.records_check _) (Compilation.answers_check _) ?_
      refine .before ?_ (compiler.compileAllAt_answers model (depth + 1) children) fun _ =>
        Compilation.records_check _
      unfold TellsOf
      rw [criteriaBeforeFault_cons_group reports]
      exact children_told

/-- A request is told of up to the first node of its filter with a fault. -/
theorem compileRequest_tells (only : compiler.registry.OnlyStandard) (request : SearchRequest) :
    compiler.TellsOf model (compiler.compileRequest model request) request.nodes := by
  -- The sort keys come last, and nothing is recorded of them.
  have sorted (predicate : P) : (do
      let order ← Compilation.check (compileSort compiler.backend model request.sort)
      pure (⟨predicate, order⟩ : Query P O) : Compilation (Query P O)).Records [] :=
    (Compilation.records_check _).before (Compilation.answers_check _) fun _ =>
      Compilation.records_pure _
  unfold compileRequest SearchRequest.nodes
  cases request.filter with
  -- Without a filter, there are no nodes to tell of.
  | none =>
    refine .before (.nothing rfl (Compilation.records_pure _)) (Compilation.answers_pure _) sorted
  | some filter =>
    exact (compileAt_tells only filter 1).before (compiler.compileAt_answers model 1 filter) sorted

/-- The log of a compilation is its start, what it recorded, and its outcome. -/
theorem log_eq {told : List Resolution} {request : SearchRequest}
    (records : (compiler.compileRequest model request).Records told) :
    compiler.log model request =
      .start model.name request.filter.isSome request.sort.length :: told.map .resolved ++
        [lastEntry model request (compiler.compile model request)] := by
  -- The log is made from the progress at the end and from the outcome.
  have recorded : (compiler.run model request).2.resolved = told := records Progress.none
  unfold log compile
  rcases ran : compiler.run model request with ⟨outcome, progress⟩
  rw [ran] at recorded
  subst recorded
  cases outcome with
  -- A rejection is told without any counts.
  | error rejection => rfl
  | ok query =>
    -- Nothing was met before the compilation, so all that was met is in the request.
    obtain ⟨criteria, groups⟩ := compiler.compileRequest_meets model request _ _ _ ran
    simp only [Progress.none, Nat.zero_add] at criteria groups
    simp only [lastEntry, criteria, groups]

variable (model) in
/-- A compilation tells the metrics of its start and of its outcome, a query with the numbers of
criteria, groups and sort keys, and a rejection with its kind. It tells the log of its start, of
each criterion that stands before the first node with a fault, in preorder, and of its outcome; if
no node has a fault, these are all the criteria. -/
theorem compile_told_exactly (only : compiler.registry.OnlyStandard) (request : SearchRequest) :
    let outcome := compiler.compile model request
    let settled := compiler.criteriaBeforeFault model request.nodes
    compiler.events model request = [.start model.name, lastEvent model request outcome] ∧
    (∃ told, List.Forall₂ (Criterion.IsToldAs model) settled told ∧
      compiler.log model request =
        .start model.name request.filter.isSome request.sort.length :: told.map .resolved ++
          [lastEntry model request outcome]) ∧
    (request.nodes.flatMap (compiler.nodeFaults model) = [] → settled = request.criteria) := by
  -- What was recorded stands between the first entry and the last one.
  intro outcome settled
  have tells : compiler.TellsOf model _ request.nodes := compileRequest_tells only request
  obtain ⟨told, each, records⟩ := tells
  refine ⟨compiler.events_eq model request, ⟨told, each, log_eq records⟩, ?_⟩
  intro faultless
  -- Without a fault the criteria are those among all nodes of the filter.
  rw [show settled = _ from criteriaBeforeFault_eq_filterMap faultless]
  exact request.filterMap_ownCriterion?_nodes

/-- A search with a criterion for a text among others, and with a wrong sort key. -/
def textual : SearchRequest :=
  ⟨some (.group .and
    [ .criterion ⟨"firstName", .equal, [.text "Aya"]⟩,
      .group .not [.criterion ⟨"community.className", .isNull, []⟩],
      .criterion ⟨"lastName", .like, [.text "b"]⟩,
      .criterion ⟨"id", .isIn, []⟩ ]), [⟨"age", .ascending⟩]⟩

/-- With one operation taken away, the log tells of the criteria before the one that uses it. -/
theorem compile_told_exactly_textual :
    let compiler : Compiler Predicate SortTerm :=
      ⟨.predicates, Registry.standard.without .like, ⟨3, true⟩⟩
    compiler.registry.OnlyStandard ∧
      compiler.events School.student textual =
        [.start "Student", .rejected "Student" .invalidOperation] ∧
      ∃ told, List.Forall₂ (Criterion.IsToldAs School.student)
          [⟨"firstName", .equal, [.text "Aya"]⟩, ⟨"community.className", .isNull, []⟩] told ∧
        compiler.log School.student textual =
          .start "Student" true 1 :: told.map .resolved ++
            [.rejected "Student" (.invalidOperation "LIKE")] := by
  -- The criterion with the unknown operation is the third one of the filter.
  intro compiler
  have only : compiler.registry.OnlyStandard := Registry.onlyStandard_standard.without .like
  obtain ⟨events, logged, -⟩ := compile_told_exactly School.student only textual
  exact ⟨only, events, logged⟩

end Compiler

end Criteria
