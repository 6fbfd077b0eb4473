import Criteria.Model.Schema

/-! Dotted attribute paths, and the attribute that a path leads to. -/

namespace Criteria

/-- The segments of an attribute path. -/
structure AttributePath where
  segments : List String
deriving DecidableEq

namespace AttributePath

/-- The segments of a dotted text: one more than it has dots. -/
def ofText (text : String) : AttributePath :=
  ⟨(text.toList.splitOn '.').map String.ofList⟩

/-- The segments joined by dots. -/
def display (path : AttributePath) : String :=
  ".".intercalate path.segments

end AttributePath

/-- The attribute at the end of a path. -/
structure Attribute where
  path : AttributePath
  kind : FieldKind
  /-- Whether any segment of the path is nullable. -/
  nullable : Bool
deriving DecidableEq

/-- A segment that the type reached so far does not have. -/
structure ResolveError where
  segment : String
  owner : String
deriving DecidableEq

namespace ResolveError

/-- The error as a message. -/
def message (error : ResolveError) : String :=
  "could not resolve attribute '" ++ error.segment ++ "' of " ++ error.owner

end ResolveError

namespace Schema

/-- The attribute that a segment names on the type reached so far. -/
def navigate (schema : Schema) (reached : FieldKind) (segment : String) :
    Except ResolveError Field :=
  match reached.target? with
  | none => .error ⟨segment, reached.typeName⟩
  | some target =>
    match (schema.fields target).find? fun field => field.name = segment with
    | some field => .ok field
    | none => .error ⟨segment, target.name⟩

/-- The kind that segments lead to from a type, and whether one of them is nullable. -/
def follow (schema : Schema) (reached : FieldKind) :
    List String → Except ResolveError (FieldKind × Bool)
  | [] => .ok (reached, false)
  | segment :: rest => do
    let field ← schema.navigate reached segment
    let (kind, nullable) ← schema.follow field.kind rest
    .ok (kind, field.nullable || nullable)

end Schema

/-- The attribute that a dotted path leads to, or its first segment that leads nowhere. -/
def EntityModel.resolve (model : EntityModel) (text : String) : Except ResolveError Attribute := do
  let path := AttributePath.ofText text
  -- The entity itself is where a reference to it leads.
  let (kind, nullable) ← model.schema.follow (.relation model.root) path.segments
  .ok ⟨path, kind, nullable⟩

end Criteria
