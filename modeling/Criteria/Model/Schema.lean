/-! Entity types and the attributes they declare. -/

namespace Criteria

/-- The identity of an entity type: entities of one name are told apart by a serial number. -/
structure EntityId where
  name : String
  serial : Nat
deriving DecidableEq

/-- The declared type of an attribute. -/
inductive FieldKind where
  | text
  /-- An integer of 32 bits. -/
  | int
  /-- An integer of 64 bits. -/
  | long
  /-- A float of single precision. -/
  | float
  | double
  | bool
  | date
  | dateTime
  | offsetDateTime
  /-- A reference to at most one entity. -/
  | relation (target : EntityId)
  /-- A reference to any number of entities. -/
  | collection (target : EntityId)
  /-- A stored type that operands are not converted to. -/
  | other (name : String)
deriving DecidableEq

namespace FieldKind

/-- The name that a kind has in messages. -/
def typeName : FieldKind → String
  | .text => "Text"
  | .int => "Int"
  | .long => "Long"
  | .float => "Float"
  | .double => "Double"
  | .bool => "Bool"
  | .date => "Date"
  | .dateTime => "DateTime"
  | .offsetDateTime => "OffsetDateTime"
  | .relation target => target.name
  | .collection target => target.name
  | .other name => name

/-- The entity that an attribute of this kind leads to. -/
def target? : FieldKind → Option EntityId
  | .relation target => some target
  | .collection target => some target
  | _ => none

/-- Whether operands are converted to this kind. -/
def isScalar : FieldKind → Bool
  | .relation _ => false
  | .collection _ => false
  | .other _ => false
  | _ => true

/-- Whether values of this kind have an order. -/
def isOrderable (kind : FieldKind) : Bool :=
  kind.isScalar

/-- Whether the kind is text. -/
def isText : FieldKind → Bool
  | .text => true
  | _ => false

/-- Whether the kind is a truth value. -/
def isBool : FieldKind → Bool
  | .bool => true
  | _ => false

/-- A kind with the shape of a reference written out. -/
def describe : FieldKind → String
  | .relation target => "Relation(" ++ target.name ++ ")"
  | .collection target => "Collection(" ++ target.name ++ ")"
  | .other name => "Other(" ++ name ++ ")"
  | kind => kind.typeName

end FieldKind

/-- One attribute of an entity. -/
structure Field where
  name : String
  kind : FieldKind
  nullable : Bool
deriving DecidableEq

/-- An entity type with its attributes in order. -/
structure Entity where
  id : EntityId
  fields : List Field
deriving DecidableEq

/-- Entity types that refer to one another by identity. -/
structure Schema where
  entities : List Entity
deriving DecidableEq

/-- The attributes of an entity, none for an identity that the schema does not hold. -/
def Schema.fields (schema : Schema) (id : EntityId) : List Field :=
  match schema.entities.find? fun entity => entity.id = id with
  | some entity => entity.fields
  | none => []

/-- An entity type of a schema, the starting point of attribute paths. -/
structure EntityModel where
  schema : Schema
  root : EntityId
deriving DecidableEq

namespace EntityModel

/-- The name of the entity type. -/
def name (model : EntityModel) : String :=
  model.root.name

/-- The attributes of the entity type, in order. -/
def fields (model : EntityModel) : List Field :=
  model.schema.fields model.root

/-- The first attribute with exactly this name. -/
def field? (model : EntityModel) (name : String) : Option Field :=
  model.fields.find? fun field => field.name = name

end EntityModel

end Criteria
