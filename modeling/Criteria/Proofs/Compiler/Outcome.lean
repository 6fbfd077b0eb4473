import Criteria.Compiler
import Criteria.Proofs.Filter.Tree
import Criteria.Proofs.Result

/-! What a compilation answers, apart from the progress that it makes on the way. -/

namespace Criteria

namespace Compilation

variable {α β : Type}

/-- A compilation answers with a result whatever progress was made before it. -/
def Answers (compilation : Compilation α) (result : Except Rejection α) : Prop :=
  ∀ progress, (compilation.run.run progress).1 = result

/-- A compilation that does nothing answers with its value. -/
theorem answers_pure (value : α) : (pure value : Compilation α).Answers (.ok value) :=
  fun _ => rfl

/-- A check answers with what was found. -/
theorem answers_check (result : Except Rejection α) : (check result).Answers result :=
  fun _ => rfl

/-- Counting a criterion answers nothing. -/
theorem answers_meetCriterion : meetCriterion.Answers (.ok ()) :=
  fun _ => rfl

/-- Counting a group answers nothing. -/
theorem answers_meetGroup : meetGroup.Answers (.ok ()) :=
  fun _ => rfl

/-- Recording a settled criterion answers nothing. -/
theorem answers_record (resolution : Resolution) : (record resolution).Answers (.ok ()) :=
  fun _ => rfl

/-- One compilation after another answers as their answers one after the other. -/
theorem Answers.bind {compilation : Compilation α} {result : Except Rejection α}
    {next : α → Compilation β} {results : α → Except Rejection β}
    (first : compilation.Answers result) (second : ∀ value, (next value).Answers (results value)) :
    (compilation >>= next).Answers (result >>= results) := by
  intro progress
  have answered := first progress
  -- The second part starts from whatever progress the first part leaves.
  rw [ExceptT.run_bind, StateT.run_bind]
  rcases reached : compilation.run.run progress with ⟨outcome, after⟩
  rw [reached] at answered
  subst answered
  cases outcome with
  -- If the first part fails, its rejection is the answer.
  | error rejection => rfl
  | ok value => exact second value after

/-- What comes after a compilation that succeeds answers alone. -/
theorem Answers.next {compilation : Compilation α} {value : α} {next : α → Compilation β}
    {result : Except Rejection β} (first : compilation.Answers (.ok value))
    (second : ∀ value, (next value).Answers result) : (compilation >>= next).Answers result :=
  -- The second step gives the same result whatever the first one gave.
  first.bind second

end Compilation

/-- How many children a group of each combinator may have. -/
def Combinator.Admits : Combinator → Nat → Prop
  | .not, count => count = 1
  | .and, count | .or, count => 2 ≤ count

instance (combinator : Combinator) (count : Nat) : Decidable (combinator.Admits count) :=
  match combinator with
  | .not => inferInstanceAs (Decidable (count = 1))
  | .and | .or => inferInstanceAs (Decidable (2 ≤ count))

/-- A group is valid exactly when its combinator admits its number of children. -/
theorem Group.validate_eq_ok_iff {combinator : Combinator} {children : List Filter} :
    Group.validate ⟨combinator, children⟩ = .ok () ↔ combinator.Admits children.length := by
  -- No child, one child and two or more are told apart.
  rcases children with _ | ⟨first, _ | ⟨second, rest⟩⟩ <;> cases combinator <;>
    simp [Group.validate, Combinator.Admits]

/-- Operands are converted one by one. -/
theorem coerceAll_eq_mapM (kind : FieldKind) (operands : List Value) :
    coerceAll kind operands =
      operands.mapM fun raw => (raw.coerce kind).mapError Rejection.ofCoercionError := by
  -- Each operand is converted before those behind it.
  induction operands with
  | nil => rfl
  | cons raw rest ih =>
    rw [coerceAll, List.mapM_cons, ih]
    rfl

/-- Operands are converted exactly when each of them is. -/
theorem coerceAll_eq_ok_iff {kind : FieldKind} {operands natives : List Value} :
    coerceAll kind operands = .ok natives ↔
      List.Forall₂ (fun raw native => raw.coerce kind = .ok native) operands natives := by
  -- Conversions in turn succeed if each of them does.
  rw [coerceAll_eq_mapM, mapM_eq_ok_iff]
  simp only [mapError_eq_ok_iff]

/-- An entry's builder is given native values if the entry converts, else what was supplied. -/
def Entry.Prepares (entry : Entry) (kind : FieldKind) (raws operands : List Value) : Prop :=
  if entry.coerces then
    List.Forall₂ (fun raw native => raw.coerce kind = .ok native) raws operands
  else operands = raws

/-- Preparing operands keeps how many there are. -/
theorem Entry.Prepares.length_eq {entry : Entry} {kind : FieldKind} {raws operands : List Value}
    (prepared : entry.Prepares kind raws operands) : operands.length = raws.length := by
  -- Converting one by one keeps the number, and so does leaving everything as it is.
  unfold Prepares at prepared
  split at prepared
  · exact (List.Forall₂.length_eq prepared).symm
  · rw [prepared]

namespace Compiler

variable {P O : Type} (compiler : Compiler P O) (model : EntityModel)

/-- The predicate of a criterion, or why it has none. -/
def criterionOutcome (condition : Criterion) : Except Rejection P := do
  let (subject, entry, operands) ← compiler.settle model condition
  compiler.backend.build compiler.config entry.builder subject operands

mutual

/-- The predicate of a filter that stands at some depth, or the first reason why it has none. -/
def outcomeAt (depth : Nat) : Filter → Except Rejection P
  | .criterion condition => do
    compiler.checkDepth depth
    compiler.criterionOutcome model condition
  | .group combinator children => do
    compiler.checkDepth depth
    Group.validate ⟨combinator, children⟩
    let images ← outcomesAt (depth + 1) children
    compiler.combine combinator images

/-- The predicates of filters that stand side by side, or the first reason why one has none. -/
def outcomesAt (depth : Nat) : List Filter → Except Rejection (List P)
  | [] => .ok []
  | child :: rest => do
    let image ← outcomeAt depth child
    let images ← outcomesAt depth rest
    .ok (image :: images)

end

/-- The query of a request, or the first reason why it has none. -/
def outcome (request : SearchRequest) : Except Rejection (Query P O) := do
  let predicate ← match request.filter with
    | some filter => compiler.outcomeAt model 1 filter
    | none => .ok compiler.backend.always
  let order ← compileSort compiler.backend model request.sort
  .ok ⟨predicate, order⟩

/-- A criterion is compiled to its predicate. -/
theorem compileCriterion_answers (condition : Criterion) :
    (compiler.compileCriterion model condition).Answers
      (compiler.criterionOutcome model condition) := by
  -- Settling comes first, and building takes what was settled.
  refine (Compilation.answers_check _).bind fun ⟨subject, entry, operands⟩ => ?_
  -- Recording the criterion comes between settling and building, and cannot fail.
  exact (Compilation.answers_record _).next fun _ => Compilation.answers_check _

mutual

/-- A filter is compiled to its predicate, whatever was compiled before it. -/
theorem compileAt_answers (depth : Nat) : ∀ filter : Filter,
    (compiler.compileAt model depth filter).Answers (compiler.outcomeAt model depth filter)
  | .criterion condition => by
    rw [compileAt, outcomeAt]
    -- The depth is checked, and the criterion counted, before it is compiled.
    refine (Compilation.answers_check _).bind fun _ => ?_
    exact Compilation.answers_meetCriterion.next fun _ =>
      compiler.compileCriterion_answers model condition
  | .group combinator children => by
    rw [compileAt, outcomeAt]
    -- Behind the depth check and the count come the validation and then the children.
    refine (Compilation.answers_check _).bind fun _ => ?_
    refine Compilation.answers_meetGroup.next fun _ => ?_
    refine (Compilation.answers_check _).bind fun _ => ?_
    exact (compileAllAt_answers (depth + 1) children).bind fun _ => Compilation.answers_check _

/-- Filters that stand side by side are compiled to their predicates. -/
theorem compileAllAt_answers (depth : Nat) : ∀ filters : List Filter,
    (compiler.compileAllAt model depth filters).Answers (compiler.outcomesAt model depth filters)
  | [] => by
    rw [compileAllAt, outcomesAt]
    exact Compilation.answers_pure []
  | child :: rest => by
    rw [compileAllAt, outcomesAt]
    -- The first filter is compiled before the others.
    refine (compileAt_answers depth child).bind fun _ => ?_
    exact (compileAllAt_answers depth rest).bind fun _ => Compilation.answers_pure _

end

/-- Compiling a request gives its outcome. -/
theorem compile_eq_outcome (request : SearchRequest) :
    compiler.compile model request = compiler.outcome model request := by
  -- A request is compiled with no progress made, which makes no difference to the answer.
  suffices (compiler.compileRequest model request).Answers (compiler.outcome model request) from
    this Progress.none
  rcases request with ⟨filter, sort⟩
  unfold compileRequest outcome
  cases filter with
  -- Without a filter, the predicate is the one that always holds.
  | none =>
    refine (Compilation.answers_pure _).bind fun _ => ?_
    exact (Compilation.answers_check _).bind fun _ => Compilation.answers_pure _
  -- With one, it is compiled from the top level down.
  | some filter =>
    refine (compiler.compileAt_answers model 1 filter).bind fun _ => ?_
    exact (Compilation.answers_check _).bind fun _ => Compilation.answers_pure _

/-- A filter passes the depth check exactly when it stands no deeper than the settings allow. -/
theorem checkDepth_eq_ok_iff {depth : Nat} :
    compiler.checkDepth depth = .ok () ↔ depth ≤ compiler.config.maxDepth := by
  -- The check compares the depth with the limit the other way around.
  unfold checkDepth
  split
  · simp only [reduceCtorEq, false_iff]
    omega
  · simp only [true_iff]
    omega

/-- Filters that stand side by side have their predicates one by one. -/
theorem outcomesAt_eq_mapM (depth : Nat) (filters : List Filter) :
    compiler.outcomesAt model depth filters = filters.mapM (compiler.outcomeAt model depth) := by
  -- Each filter is compiled before those behind it.
  induction filters with
  | nil =>
    rw [outcomesAt]
    rfl
  | cons child rest ih =>
    rw [outcomesAt, List.mapM_cons, ih]
    rfl

/-- Sort keys are compiled to sort terms one by one. -/
theorem compileSort_eq_mapM (backend : Backend P O) (sort : List SortKey) :
    compileSort backend model sort = sort.mapM fun key =>
      (model.resolve key.field).mapError (fun _ => Rejection.invalidSortingField key.field) >>=
        fun subject => .ok (backend.order subject key.direction) := by
  -- Each sort key is compiled before those behind it.
  induction sort with
  | nil => rfl
  | cons key rest ih =>
    rw [compileSort, List.mapM_cons, ih]
    cases model.resolve key.field <;> rfl

/-- A criterion has a predicate exactly when it stands high enough and can be settled and built. -/
theorem outcomeAt_criterion_eq_ok_iff {depth : Nat} {condition : Criterion} {predicate : P} :
    compiler.outcomeAt model depth (.criterion condition) = .ok predicate ↔
      depth ≤ compiler.config.maxDepth ∧
        compiler.criterionOutcome model condition = .ok predicate := by
  -- The depth is checked first, and then the criterion is compiled.
  rw [outcomeAt, check_bind_eq_ok_iff, checkDepth_eq_ok_iff]

/-- A group has a predicate exactly when it stands high enough, has as many children as its
combinator needs, and these have predicates that combine to it. -/
theorem outcomeAt_group_eq_ok_iff {depth : Nat} {combinator : Combinator}
    {children : List Filter} {predicate : P} :
    compiler.outcomeAt model depth (.group combinator children) = .ok predicate ↔
      depth ≤ compiler.config.maxDepth ∧
        combinator.Admits children.length ∧
        ∃ images, List.Forall₂
          (fun child image => compiler.outcomeAt model (depth + 1) child = .ok image)
          children images ∧ compiler.combine combinator images = .ok predicate := by
  -- The checks and the children are gone through in the order of the compiler.
  rw [outcomeAt, check_bind_eq_ok_iff, check_bind_eq_ok_iff]
  simp only [bind_eq_ok_iff, checkDepth_eq_ok_iff, Group.validate_eq_ok_iff, outcomesAt_eq_mapM,
    mapM_eq_ok_iff]

/-- The operands of a criterion are settled exactly when its path leads somewhere, its operation
is registered and takes that many operands on an attribute of that kind, and each operand that
must be converted can be. -/
theorem settle_eq_ok_iff {condition : Criterion} {subject : Attribute} {entry : Entry}
    {operands : List Value} :
    compiler.settle model condition = .ok (subject, entry, operands) ↔
      model.resolve condition.field = .ok subject ∧
        compiler.registry.get condition.operation = .ok entry ∧
        entry.arity.accepts condition.operands.length = true ∧
        entry.requirement.admits subject.kind = true ∧
        entry.Prepares subject.kind condition.operands operands := by
  -- Each check of the compiler is one of the conditions, and only converting has two ways to go.
  unfold settle Entry.Prepares
  simp only [bind_eq_ok_iff, mapError_eq_ok_iff, test_eq_ok_iff]
  constructor
  · intro settled
    obtain ⟨reached, resolved, found, registered, counted, suited, prepared⟩ := settled
    split at prepared
    · -- An entry that converts takes the natives of the operands.
      rename_i coerces
      obtain ⟨natives, converted, same⟩ := bind_eq_ok_iff.mp prepared
      cases same
      refine ⟨resolved, registered, counted, suited, ?_⟩
      rw [if_pos coerces]
      exact coerceAll_eq_ok_iff.mp converted
    · -- Any other entry takes the operands as they are.
      rename_i raw
      cases prepared
      refine ⟨resolved, registered, counted, suited, ?_⟩
      rw [if_neg raw]
  · -- The other way about, each condition lets the next check be made.
    intro conditions
    obtain ⟨resolved, registered, counted, suited, prepared⟩ := conditions
    refine ⟨subject, resolved, entry, registered, counted, suited, ?_⟩
    split
    · rename_i coerces
      rw [if_pos coerces] at prepared
      exact bind_eq_ok_iff.mpr ⟨operands, coerceAll_eq_ok_iff.mpr prepared, rfl⟩
    · rename_i raw
      rw [if_neg raw] at prepared
      subst prepared
      rfl

/-- The query of a request without a filter keeps everything, in the order of its sort terms. -/
theorem compile_none_eq_ok_iff {sort : List SortKey} {query : Query P O} :
    compiler.compile model ⟨none, sort⟩ = .ok query ↔
      query.predicate = compiler.backend.always ∧
        compileSort compiler.backend model sort = .ok query.order := by
  -- Without a filter, the predicate is settled before the sort keys are looked at.
  rw [compile_eq_outcome, outcome]
  simp only [bind_eq_ok_iff, Except.ok.injEq]
  constructor
  · intro compiled
    obtain ⟨predicate, rfl, order, sorted, rfl⟩ := compiled
    exact ⟨rfl, sorted⟩
  · intro parts
    obtain ⟨always, sorted⟩ := parts
    exact ⟨_, rfl, query.order, sorted, by rw [← always]⟩

/-- The query of a request with a filter has the predicate of the filter and its sort terms. -/
theorem compile_some_eq_ok_iff {filter : Filter} {sort : List SortKey} {query : Query P O} :
    compiler.compile model ⟨some filter, sort⟩ = .ok query ↔
      compiler.outcomeAt model 1 filter = .ok query.predicate ∧
        compileSort compiler.backend model sort = .ok query.order := by
  -- With a filter, its predicate comes first and the sort terms after it.
  rw [compile_eq_outcome, outcome]
  simp only [bind_eq_ok_iff, Except.ok.injEq]
  constructor
  · intro compiled
    obtain ⟨predicate, made, order, sorted, rfl⟩ := compiled
    exact ⟨made, sorted⟩
  · intro parts
    exact ⟨_, parts.1, query.order, parts.2, rfl⟩

end Compiler

end Criteria
