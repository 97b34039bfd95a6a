import Entigram.Classification
import Entigram.Json.Text

/-!
# Schema listings

A schema as a JSON value, for inspecting what was read: its entities with their attributes and, if
wanted, their kinds, and its relationships.
-/

set_option autoImplicit false

namespace Entigram

/-- The listing of an attribute. -/
def Attribute.toJson (a : Attribute) : Json :=
  .obj [("name", .str a.name), ("data_type", .str a.dataType),
    ("is_primary_key", .bool a.isPrimaryKey), ("is_foreign_key", .bool a.isForeignKey)]

/-- The listing of an entity; with its kind if one is given. -/
def Entity.toJson (e : Entity) (kind : Option Kind) : Json :=
  .obj ([("name", .str e.name), ("attributes", .arr (e.attributes.map Attribute.toJson))]
    ++ (kind.map fun k => ("kind", Json.str k.label)).toList)

/-- The listing of a relationship. -/
def Relationship.toJson (r : Relationship) : Json :=
  .obj [("from_entity", .str r.source), ("to_entity", .str r.target),
    ("from_cardinality", .str r.sourceCardinality), ("to_cardinality", .str r.targetCardinality),
    ("label", .str r.label)]

/-- The listing of a schema, with or without the kinds of its entities. -/
def Schema.toJson (s : Schema) (withKinds : Bool) : Json :=
  .obj [
    ("entities", .arr (s.entities.map fun e =>
      e.toJson (if withKinds then some (s.kind e) else none))),
    ("relationships", .arr (s.relationships.map Relationship.toJson))]

/-- The text of a schema's listing. -/
def Schema.listing (s : Schema) (layout : Json.Layout := .lines "  ") (withKinds : Bool := true) :
    String :=
  (s.toJson withKinds).text layout

end Entigram
