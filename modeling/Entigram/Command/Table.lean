import Entigram.Classification
import Entigram.Naming.ClassNames

/-!
# Tables about a schema

What `inspect` shows of a diagram: a table of its entities and a table of its relationships.  A
relationship with an end that is not declared is marked, because generating code may fail on it.
-/

set_option autoImplicit false

namespace Entigram
namespace Command

/-- A line of a table, in a style of its own or none. -/
structure Row where
  cells : List String
  style : Option String := none
deriving Repr, DecidableEq

/-- A table with a title. -/
structure Table where
  title : String
  columns : List String
  rows : List Row
deriving Repr, DecidableEq

/-- The names of attributes, with commas. -/
def attributeNames (attributes : List Attribute) : String :=
  ", ".intercalate (attributes.map (·.name))

/-- The table of the entities. -/
def entityTable (s : Schema) : Table where
  title := s!"Entities ({s.entities.length})"
  columns := ["Entity", "Class", "Kind", "Attributes", "PK", "FK"]
  rows := (s.entities.zip (Naming.ClassNames.ofSchema s).classes).map fun p =>
    { cells := [p.1.name, p.2, (s.kind p.1).label, toString p.1.attributes.length,
        attributeNames p.1.primaryKeys, attributeNames p.1.foreignKeys] }

/-- The table of the relationships. -/
def relationshipTable (s : Schema) : Table where
  title := s!"Relationships ({s.relationships.length})"
  columns := ["From", "Cardinality", "To", "Label"]
  rows := s.relationships.map fun r =>
    { cells := [r.source, s!"{r.sourceCardinality}--{r.targetCardinality}", r.target, r.label]
      style := if s.declares r.source && s.declares r.target then none else some "red" }

end Command
end Entigram
