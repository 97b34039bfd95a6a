import Entigram.Diagram.Statement
import Entigram.Log.Record

/-!
# Reading a diagram

A text is cut into lines, each line says at most one thing (`statements`), and the statements are
put together into a schema (`Reading.schema`).  An attribute belongs to the last entity whose block
was opened before it, so the entities are assembled from the right: attributes wait until the
opening line to their left claims them.

Besides the schema a reading keeps its notes: one for every line that was passed over.
-/

set_option autoImplicit false

namespace Entigram
namespace Diagram

open Text

/-! ## From lines to statements -/

/-- What numbered lines say, one after the other, when the block of `inside` is open before
them. -/
def statementsFrom (inside : Option String) (number : Nat) : List (List Char) → List Statement
  | [] => []
  | line :: rest =>
    match Statement.ofLine? inside number line with
    | none => statementsFrom inside (number + 1) rest
    | some s => s :: statementsFrom (s.insideAfter inside) (number + 1) rest

/-- What a diagram's text says. -/
def statements (text : String) : List Statement :=
  statementsFrom none 1 (lines text.toList)

/-! ## From statements to a schema -/

/-- Puts one more statement in front: the attributes still without an entity, and the entities. -/
def Statement.assemble : Statement → List Attribute × List Entity → List Attribute × List Entity
  | .opening name, (waiting, entities) => ([], { name, attributes := waiting } :: entities)
  | .attribute a, (waiting, entities) => (a :: waiting, entities)
  | _, acc => acc

/-- The entities that statements declare, with their attributes. -/
def entitiesOf (statements : List Statement) : List Entity :=
  (statements.foldr Statement.assemble ([], [])).2

/-- The relationship a statement declares. -/
def Statement.relationship? : Statement → Option Relationship
  | .relationship r => some r
  | _ => none

/-- The note a statement is. -/
def Statement.note? : Statement → Option Note
  | .unread n => some n
  | _ => none

/-! ## Readings -/

/-- What came out of reading a diagram. -/
structure Reading where
  schema : Schema
  /-- The lines that were passed over, in order. -/
  notes : List Note
deriving Repr, DecidableEq

/-- Reads a diagram. -/
def read (text : String) : Reading :=
  let said := statements text
  { schema := {
      entities := entitiesOf said
      relationships := said.filterMap Statement.relationship? }
    notes := said.filterMap Statement.note? }

/-- The schema that a diagram describes. -/
def parse (text : String) : Schema := (read text).schema

/-- Where the records of a reading come from. -/
def readingOrigin : Log.Origin where
  component := "er2code.schema.parser"
  operation := "parse_mermaid"

/-- The records of a reading; `elapsed` is the text for the time it took. -/
def Reading.log (r : Reading) (elapsed : String) : List Log.Record :=
  ⟨.info, readingOrigin, "Parse started"⟩ ::
    r.notes.map (fun n => ⟨.debug, readingOrigin, n.message⟩) ++
    [⟨.info, readingOrigin,
      s!"Parse completed in {elapsed}ms. Found {r.schema.entities.length} entities and "
        ++ s!"{r.schema.relationships.length} relationships"⟩]

end Diagram
end Entigram
