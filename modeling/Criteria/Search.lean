import Criteria.Compiler
import Criteria.Predicate.Evaluation

/-! Searching records with the library's own predicates and the standard operations. -/

namespace Criteria

/-- The kind of a public error. -/
inductive SearchErrorKind where
  /-- The request is malformed. -/
  | compile (kind : RejectionKind)
  /-- The settings are unusable. -/
  | config
deriving DecidableEq

/-- A failure as callers see it. -/
structure SearchError where
  kind : SearchErrorKind
  message : String
deriving DecidableEq

namespace SearchError

/-- The stable code of an error, which only rejected requests have. -/
def code? (error : SearchError) : Option String :=
  match error.kind with
  | .compile kind => some kind.code
  | .config => none

/-- A rejected request as a public error. -/
def ofRejection (rejection : Rejection) : SearchError :=
  ⟨.compile rejection.kind, rejection.message⟩

/-- Refused settings as a public error. -/
def ofConfigError (error : ConfigError) : SearchError :=
  ⟨.config, error.message⟩

end SearchError

/-- The compiler for the library's own predicates and the standard operations. -/
def Compiler.standard (config : Config) : Compiler Predicate SortTerm :=
  ⟨.predicates, .standard, config⟩

namespace SearchRequest

/-- The query of a request under settings, which are looked at first. -/
def compileWith (request : SearchRequest) (model : EntityModel) (config : Config) :
    Except SearchError RowQuery := do
  config.validate.mapError SearchError.ofConfigError
  ((Compiler.standard config).compile model request).mapError SearchError.ofRejection

/-- The query of a request under the default settings. -/
def compile (request : SearchRequest) (model : EntityModel) : Except SearchError RowQuery :=
  request.compileWith model .default

/-- The records that a request keeps, sorted as it asks if sorting finds no contradiction. -/
def search {α : Type} (request : SearchRequest) (model : EntityModel) (row : α → Row)
    (records : List α) : Except SearchError (Option (List α)) := do
  let query ← request.compile model
  .ok (query.select? row records)

end SearchRequest

end Criteria
