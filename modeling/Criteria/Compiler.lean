import Criteria.Builder
import Criteria.Registry

/-! Compiling a search request into one predicate and a list of sort terms. -/

namespace Criteria

/-- A criterion whose attribute and operands have been settled. -/
structure Resolution where
  path : AttributePath
  kind : FieldKind
  operation : Operation
  operandCount : Nat
deriving DecidableEq

/-- What a compilation has met so far. -/
structure Progress where
  criteria : Nat
  groups : Nat
  /-- The criteria settled so far, in the order of the tree. -/
  resolved : List Resolution
deriving DecidableEq

/-- The progress of a compilation that has met nothing. -/
def Progress.none : Progress := ⟨0, 0, []⟩

/-- A compilation, whose progress outlives a rejection. -/
abbrev Compilation (α : Type) := ExceptT Rejection (StateM Progress) α

namespace Compilation

/-- Ends a compilation with what an earlier check found. -/
def check {α : Type} (result : Except Rejection α) : Compilation α :=
  ExceptT.mk (pure result)

/-- Counts a criterion. -/
def meetCriterion : Compilation Unit :=
  modify fun progress => { progress with criteria := progress.criteria + 1 }

/-- Counts a group. -/
def meetGroup : Compilation Unit :=
  modify fun progress => { progress with groups := progress.groups + 1 }

/-- Records a settled criterion. -/
def record (resolution : Resolution) : Compilation Unit :=
  modify fun progress => { progress with resolved := progress.resolved ++ [resolution] }

end Compilation

/-- A group has a child; a negation has one, a conjunction or a disjunction two or more. -/
def Group.validate (group : Group) : Except Rejection Unit :=
  match group.combinator, group.children.length with
  -- No children are a fault of their own, whatever the combinator.
  | combinator, 0 => .error (.emptyConditions combinator)
  | .not, 1 => .ok ()
  | .not, _ => .error (.invalidConditionsCount .not)
  -- What is left with one child is a conjunction or a disjunction.
  | combinator, 1 => .error (.invalidConditionsCount combinator)
  | _, _ => .ok ()

/-- The native values of a kind that operands stand for, or the first that has none. -/
def coerceAll (kind : FieldKind) : List Value → Except Rejection (List Value)
  | [] => .ok []
  | raw :: rest => do
    let value ← (raw.coerce kind).mapError Rejection.ofCoercionError
    let values ← coerceAll kind rest
    .ok (value :: values)

/-- A compiler for one query layer, with the operations that it knows and its settings. -/
structure Compiler (P O : Type) where
  backend : Backend P O
  registry : Registry Entry
  config : Config

namespace Compiler

variable {P O : Type}

/--
The subject, entry and operands of a criterion.

The path is looked at first, then the operation, the number of operands, the kind of the subject
and each operand in turn.
-/
def settle (compiler : Compiler P O) (model : EntityModel) (condition : Criterion) :
    Except Rejection (Attribute × Entry × List Value) := do
  -- Each check is made only if all before it were passed.
  let subject ← (model.resolve condition.field).mapError Rejection.ofResolveError
  let entry ← compiler.registry.get condition.operation
  if !entry.arity.accepts condition.operands.length then
    .error (.invalidOperandCount condition.operation condition.operands entry.arity)
  else if !entry.requirement.admits subject.kind then
    .error (.incompatibleOperation condition.operation condition.field subject.kind.typeName)
  else do
    -- The entry says whether operands become native values or stay as they are.
    let operands ←
      if entry.coerces then coerceAll subject.kind condition.operands
      else .ok condition.operands
    .ok (subject, entry, operands)

/-- The predicate of a criterion. -/
def compileCriterion (compiler : Compiler P O) (model : EntityModel) (condition : Criterion) :
    Compilation P := do
  let (subject, entry, operands) ← Compilation.check (compiler.settle model condition)
  -- The criterion is recorded before it is built, and so even if that fails.
  Compilation.record ⟨subject.path, subject.kind, condition.operation, operands.length⟩
  Compilation.check (compiler.backend.build compiler.config entry.builder subject operands)

/-- The predicate of a group whose children are compiled. -/
def combine (compiler : Compiler P O) (combinator : Combinator) (children : List P) :
    Except Rejection P :=
  match combinator with
  | .and => .ok (compiler.backend.and children)
  | .or => .ok (compiler.backend.or children)
  | .not =>
    -- A group that was validated has one child here.
    match children.getLast? with
    | some child => .ok (compiler.backend.not child)
    | none => .error (.emptyConditions .not)

/-- A filter may not stand deeper than the settings allow. -/
def checkDepth (compiler : Compiler P O) (depth : Nat) : Except Rejection Unit :=
  if compiler.config.maxDepth < depth then .error (.maxDepthExceeded compiler.config.maxDepth)
  else .ok ()

mutual

/-- The predicate of a filter that stands at some depth. -/
def compileAt (compiler : Compiler P O) (model : EntityModel) (depth : Nat) :
    Filter → Compilation P
  | .criterion condition => do
    -- A node that stands too deep is not counted.
    Compilation.check (compiler.checkDepth depth)
    Compilation.meetCriterion
    compiler.compileCriterion model condition
  | .group combinator children => do
    Compilation.check (compiler.checkDepth depth)
    Compilation.meetGroup
    -- A group is counted before its children are, and before their number is looked at.
    Compilation.check (Group.validate ⟨combinator, children⟩)
    let images ← compiler.compileAllAt model (depth + 1) children
    Compilation.check (compiler.combine combinator images)

/-- The predicates of filters that stand side by side, from left to right. -/
def compileAllAt (compiler : Compiler P O) (model : EntityModel) (depth : Nat) :
    List Filter → Compilation (List P)
  | [] => pure []
  | child :: rest => do
    let image ← compiler.compileAt model depth child
    let images ← compiler.compileAllAt model depth rest
    pure (image :: images)

end

/-- The sort terms of sort keys, in order; a path that leads nowhere is reported whole. -/
def compileSort (backend : Backend P O) (model : EntityModel) :
    List SortKey → Except Rejection (List O)
  | [] => .ok []
  | key :: rest => do
    -- The whole path is reported, and not the segment that is missing.
    let subject ←
      (model.resolve key.field).mapError fun _ => Rejection.invalidSortingField key.field
    let terms ← compileSort backend model rest
    .ok (backend.order subject key.direction :: terms)

/-- The query of a request: its filter first, then its sort keys. -/
def compileRequest (compiler : Compiler P O) (model : EntityModel) (request : SearchRequest) :
    Compilation (Query P O) := do
  let predicate ← match request.filter with
    | some filter => compiler.compileAt model 1 filter
    -- Without a filter, every row is asked for.
    | none => pure compiler.backend.always
  let order ← Compilation.check (compileSort compiler.backend model request.sort)
  pure ⟨predicate, order⟩

/-- The outcome of compiling a request, and the progress made on the way. -/
def run (compiler : Compiler P O) (model : EntityModel) (request : SearchRequest) :
    Except Rejection (Query P O) × Progress :=
  (compiler.compileRequest model request).run.run Progress.none

/-- The query of a request, or the first fault in it. -/
def compile (compiler : Compiler P O) (model : EntityModel) (request : SearchRequest) :
    Except Rejection (Query P O) :=
  (compiler.run model request).1

/-- The predicate of a filter on its own. -/
def compileFilter (compiler : Compiler P O) (model : EntityModel) (filter : Filter) :
    Except Rejection P :=
  ((compiler.compileAt model 1 filter).run.run Progress.none).1

end Compiler

end Criteria
