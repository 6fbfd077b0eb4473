import Criteria.Model.Schema
import Criteria.Text.Description

/-! Entity types and attributes as a description shows them. -/

namespace Criteria

/-- An attribute with its name, kind and nullability. -/
def Field.describe (field : Field) : String :=
  "FieldModel \x7b name: " ++ describeText field.name ++ ", kind: " ++ field.kind.describe
    ++ ", nullable: " ++ (if field.nullable then "true" else "false") ++ " \x7d"

/-- An entity type with the names of its attributes. -/
def EntityModel.describe (model : EntityModel) : String :=
  let names := ", ".intercalate (model.fields.map fun field => describeText field.name)
  "EntityModel \x7b name: " ++ describeText model.name ++ ", fields: [" ++ names ++ "] \x7d"

end Criteria
