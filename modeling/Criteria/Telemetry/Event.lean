import Criteria.Compiler

/-! What a compilation tells its observers. -/

namespace Criteria

/-- An event for the metrics. -/
inductive Event where
  | start (entity : String)
  | finish (entity : String) (criteria groups sortKeys : Nat)
  | rejected (entity : String) (kind : RejectionKind)
deriving DecidableEq

/-- An entry of the log. -/
inductive LogEntry where
  | start (entity : String) (filtered : Bool) (sortKeys : Nat)
  | resolved (resolution : Resolution)
  | finish (entity : String) (criteria groups : Nat)
  | rejected (entity : String) (rejection : Rejection)
deriving DecidableEq

namespace Compiler

variable {P O : Type}

/-- The events of one compilation: its start and its end. -/
def events (compiler : Compiler P O) (model : EntityModel) (request : SearchRequest) :
    List Event :=
  let (outcome, progress) := compiler.run model request
  [ .start model.name,
    match outcome with
    | .ok _ => .finish model.name progress.criteria progress.groups request.sort.length
    | .error rejection => .rejected model.name rejection.kind ]

/-- The log of one compilation: its start, the criteria it settled, and its end. -/
def log (compiler : Compiler P O) (model : EntityModel) (request : SearchRequest) :
    List LogEntry :=
  let (outcome, progress) := compiler.run model request
  let start := LogEntry.start model.name request.filter.isSome request.sort.length
  let finish := match outcome with
    | .ok _ => LogEntry.finish model.name progress.criteria progress.groups
    | .error rejection => LogEntry.rejected model.name rejection
  start :: progress.resolved.map LogEntry.resolved ++ [finish]

end Compiler

end Criteria
