import Entigram.Naming.Identifier
import Entigram.Naming.Used

/-!
# Class names

Every entity of a schema becomes a class.  Class names are given by position, so entities that are
declared under one name still get classes of their own; looking a name up finds the class of the
first entity declared with it.

A relationship can name an entity that is not declared.  Resolving such a name is the one way in
which generating code can fail on a diagram (`UnresolvedReference`).
-/

set_option autoImplicit false

namespace Entigram
namespace Naming

/-- A name that no entity is declared with, and the relationship that mentions it. -/
structure UnresolvedReference where
  name : String
  relationship : Option Relationship := none
deriving Repr, DecidableEq

/-- The text of the failure. -/
def UnresolvedReference.message (e : UnresolvedReference) : String :=
  s!"Unresolved entity reference '{e.name}'" ++
    match e.relationship with
    | none => ""
    | some r =>
      s!" in relationship {r.source} {r.sourceCardinality}--{r.targetCardinality} {r.target}"

/-- The class names of a schema's entities, by position, and the diagram names they stand for. -/
structure ClassNames where
  classes : List String
  names : List String
deriving Repr, DecidableEq, Inhabited

namespace ClassNames

/-- Class names for a schema: the entities' names as identifiers, kept apart by numbers. -/
def ofSchema (s : Schema) : ClassNames where
  classes := (UsedNames.empty.claimAll (s.entities.map fun e => pascalCase e.name)).1
  names := s.entities.map (·.name)

/-- How many classes there are. -/
def size (c : ClassNames) : Nat := c.classes.length

/-- The class of the first entity with this name. -/
def get? (c : ClassNames) (name : String) : Option String :=
  let key := Text.fold name
  ((c.names.zip c.classes).find? fun p => Text.fold p.1 == key).map (·.2)

theorem get?_eq (c : ClassNames) (name : String) : c.get? name =
    ((c.names.zip c.classes).find? fun p => sameName p.1 name).map (·.2) := rfl

/-- Does the name stand for a class? -/
def contains (c : ClassNames) (name : String) : Bool := (c.get? name).isSome

/-- The class for a name that a relationship mentions. -/
def resolve (c : ClassNames) (name : String) (relationship : Option Relationship := none) :
    Except UnresolvedReference String :=
  match c.get? name with
  | some cls => .ok cls
  | none => .error { name, relationship }

/-- The given names, or those of the schema if none are given.  Names without any class count as
not given. -/
def orOfSchema (given : Option ClassNames) (s : Schema) : ClassNames :=
  match given with
  | some c => if c.classes.isEmpty then ofSchema s else c
  | none => ofSchema s

end ClassNames

end Naming
end Entigram
