import Criteria.Filter.Tree
import Criteria.Interchange.Shape
import Criteria.Rejection

/-! Reading search requests and their parts from JSON. -/

namespace Criteria

namespace JsonReader

/-- Reads an operand: null, a truth value, a number or a text. -/
def operand : JsonReader Value
  | .null => .ok .null
  | .boolean truth => .ok (.bool truth)
  | .number (.integer number) =>
    match boundedInt? 64 number with
    | some whole => .ok (.int whole)
    | none => .ok (.float (Double.ofInt number))
  | .number (.real magnitude) => .ok (.float magnitude)
  | .string content => .ok (.text content)
  | other =>
    -- The whole value is read before it turns out to be no operand.
    if other.isReadable then
      .error (.unexpected "data did not match any variant of untagged enum Value")
    else .error .malformed

/-- Reads an operation by its name. -/
def operation : JsonReader Operation := fun found => do
  let name ← text found
  (Operation.parse name).mapError fun rejection => .unexpected rejection.message

/-- Reads a combinator by its name. -/
def combinator : JsonReader Combinator :=
  name (Combinator.all.map fun combinator => (combinator.name, combinator))

/-- Reads a direction by its name. -/
def direction : JsonReader Direction :=
  name (Direction.all.map fun direction => (direction.name, direction))

end JsonReader

/-- The parts of a filter node read so far: those of a criterion and those of a group. -/
structure NodeParts where
  field : Option String
  operation : Option Operation
  operands : Option (List Value)
  combinator : Option Combinator
  children : Option (List Filter)

namespace NodeParts

/-- The keys that a filter node may have. -/
def fields : List String := ["field", "operation", "operands", "combinator", "children"]

/-- No part. -/
def none : NodeParts := ⟨.none, .none, .none, .none, .none⟩

/-- The filter that the parts make, which have to be those of one kind of node. -/
def toFilter (parts : NodeParts) : Except ReadError Filter :=
  let hasCriterion := parts.field.isSome || parts.operation.isSome || parts.operands.isSome
  let hasGroup := parts.combinator.isSome || parts.children.isSome
  if hasCriterion && hasGroup then
    .error (.unexpected "filter node has both criterion and group keys")
  else
    match parts.field, parts.combinator with
    | some field, .none =>
      match parts.operation with
      | some operation => .ok (.criterion ⟨field, operation, parts.operands.getD []⟩)
      | .none => .error (.unexpected ("criterion on '" ++ field ++ "' is missing 'operation'"))
    | .none, some combinator => .ok (.group combinator (parts.children.getD []))
    | _, _ => .error (.unexpected "filter node needs either 'field' or 'combinator'")

/-- Adds a part other than the children. -/
def addSimple (parts : NodeParts) (field : String) (value : Json) : Except ReadError NodeParts :=
  match field with
  | "field" => do
    let found ← JsonReader.optional JsonReader.text value
    .ok { parts with field := found }
  | "operation" => do
    let found ← JsonReader.optional JsonReader.operation value
    .ok { parts with operation := found }
  | "operands" => do
    let found ← JsonReader.optional (JsonReader.list JsonReader.operand) value
    .ok { parts with operands := found }
  | _ => do
    let found ← JsonReader.optional JsonReader.combinator value
    .ok { parts with combinator := found }

end NodeParts

namespace JsonReader

mutual

/-- Reads a filter node, whose keys decide whether it is a criterion or a group. -/
def filter : Json → Except ReadError Filter
  | .object members => do
    let parts ← nodeMembers [] .none members
    parts.toFilter
  -- An array is read by position, with all parts in it.
  | .array found => do
    let parts ← nodeElements .none NodeParts.fields found
    parts.toFilter
  | other => ReadError.mismatch other "struct RawNode"

/-- Reads the members of a filter node into its parts so far. -/
def nodeMembers (seen : List String) (parts : NodeParts) :
    List (JsonKey × Json) → Except ReadError NodeParts
  | [] => .ok parts
  | (key, value) :: rest => do
    let field ← JsonShape.knownKey NodeParts.fields seen key
    let parts ← nodePart parts field value
    nodeMembers (field :: seen) parts rest

/-- Reads the elements of an array that spells all parts of a filter node in order. -/
def nodeElements (parts : NodeParts) : List String → List Json → Except ReadError NodeParts
  | [], [] => .ok parts
  | [], _ :: _ => .error .malformed
  -- No part of a node may be left out of an array.
  | _ :: fields, [] =>
    JsonShape.tooShort "RawNode" NodeParts.fields
      (NodeParts.fields.length - (fields.length + 1))
  | field :: fields, value :: rest => do
    let parts ← nodePart parts field value
    nodeElements parts fields rest

/-- Reads one part of a filter node. -/
def nodePart (parts : NodeParts) (field : String) (value : Json) : Except ReadError NodeParts :=
  -- Children are filters again, so they are read within the recursion.
  if field = "children" then do
    let found ← optionalFilters value
    .ok { parts with children := found }
  else parts.addSimple field value

/-- Reads null as nothing and an array as the filters in it. -/
def optionalFilters : Json → Except ReadError (Option (List Filter))
  | .null => .ok none
  | .array found => do
    let children ← filters found
    .ok (some children)
  | other => ReadError.mismatch other "a sequence"

/-- Reads filters one after the other. -/
def filters : List Json → Except ReadError (List Filter)
  | [] => .ok []
  | element :: rest => do
    let child ← filter element
    let children ← filters rest
    .ok (child :: children)

end

/-- Reads an array of filters. -/
def filterList : JsonReader (List Filter)
  | .array found => filters found
  | other => ReadError.mismatch other "a sequence"

end JsonReader

/-- The parts of a criterion read so far. -/
structure CriterionParts where
  field : Option String
  operation : Option Operation
  operands : Option (List Value)

/-- A criterion by itself; the operands may be left out. -/
def criterionShape : JsonShape CriterionParts where
  name := "Criterion"
  fields := ["field", "operation", "operands"]
  lenient := false
  mayMiss field := field = "operands"
  part field value parts :=
    match field with
    | "field" => do
      let found ← JsonReader.text value
      .ok { parts with field := some found }
    | "operation" => do
      let found ← JsonReader.operation value
      .ok { parts with operation := some found }
    | _ => do
      let found ← JsonReader.list JsonReader.operand value
      .ok { parts with operands := some found }

/-- The parts of a group read so far. -/
structure GroupParts where
  combinator : Option Combinator
  children : Option (List Filter)

/-- A group by itself; the children may be left out. -/
def groupShape : JsonShape GroupParts where
  name := "Group"
  fields := ["combinator", "children"]
  lenient := false
  mayMiss field := field = "children"
  part field value parts :=
    match field with
    | "combinator" => do
      let found ← JsonReader.combinator value
      .ok { parts with combinator := some found }
    | _ => do
      let found ← JsonReader.filterList value
      .ok { parts with children := some found }

/-- The parts of a sort key read so far. -/
structure SortKeyParts where
  field : Option String
  direction : Option Direction

/-- A sort key; the direction may be left out. -/
def sortKeyShape : JsonShape SortKeyParts where
  name := "SortSpec"
  fields := ["field", "direction"]
  lenient := false
  mayMiss field := field = "direction"
  part field value parts :=
    match field with
    | "field" => do
      let found ← JsonReader.text value
      .ok { parts with field := some found }
    | _ => do
      let found ← JsonReader.direction value
      .ok { parts with direction := some found }

namespace JsonReader

/-- Reads a criterion by itself. -/
def criterion : JsonReader Criterion := fun found => do
  let parts ← criterionShape.reader ⟨none, none, none⟩ found
  match parts.field, parts.operation with
  | some field, some operation => .ok ⟨field, operation, parts.operands.getD []⟩
  | none, _ => JsonShape.missing "field"
  | _, none => JsonShape.missing "operation"

/-- Reads a group by itself. -/
def group : JsonReader Group := fun found => do
  let parts ← groupShape.reader ⟨none, none⟩ found
  match parts.combinator with
  | some combinator => .ok ⟨combinator, parts.children.getD []⟩
  | none => JsonShape.missing "combinator"

/-- Reads a sort key, ascending unless it says otherwise. -/
def sortKey : JsonReader SortKey := fun found => do
  let parts ← sortKeyShape.reader ⟨none, none⟩ found
  match parts.field with
  | some field => .ok ⟨field, parts.direction.getD .ascending⟩
  | none => JsonShape.missing "field"

end JsonReader

/-- A search request, of which everything may be left out. -/
def requestShape : JsonShape SearchRequest where
  name := "SearchSpec"
  fields := ["criteria", "sort"]
  lenient := false
  mayMiss _ := true
  part field value request :=
    match field with
    | "criteria" => do
      let found ← JsonReader.optional JsonReader.filter value
      .ok { request with filter := found }
    | _ => do
      let found ← JsonReader.list JsonReader.sortKey value
      .ok { request with sort := found }

namespace JsonReader

/-- Reads a search request. -/
def request : JsonReader SearchRequest :=
  requestShape.reader ⟨none, []⟩

end JsonReader

/-- The search request of a JSON text, with a limit on nesting if there is one. -/
def SearchRequest.ofText (limit : Option Nat) (text : String) : Except ReadError SearchRequest :=
  (Json.read limit text.toList).readAs JsonReader.request

end Criteria
