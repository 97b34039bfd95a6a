import Entigram.Text.Case
import Entigram.Text.Search

/-!
# Entity-relationship schemas

The subject of the library: entities with typed attributes, and relationships between them that
refer to entities by name.  Both lists keep their order, because every decision of the form "the
first relationship into this entity" depends on it.

Names are compared without regard to case (`sameName`).  A name may be declared more than once, and
then stands for the first declaration (`Schema.entity?`); a relationship may name an entity that is
not declared at all.
-/

set_option autoImplicit false

namespace Entigram

/-! ## Parts of a schema -/

/-- A column of an entity. -/
structure Attribute where
  name : String
  dataType : String
  isPrimaryKey : Bool := false
  isForeignKey : Bool := false
deriving Repr, DecidableEq, Inhabited

/-- A declared entity. -/
structure Entity where
  name : String
  attributes : List Attribute := []
deriving Repr, DecidableEq, Inhabited

/-- The attributes that make up the entity's key. -/
def Entity.primaryKeys (e : Entity) : List Attribute := e.attributes.filter (·.isPrimaryKey)

/-- The attributes that refer to other entities. -/
def Entity.foreignKeys (e : Entity) : List Attribute := e.attributes.filter (·.isForeignKey)

/-- A directed relationship between two entities, given by their names.  Each end has a
cardinality, written with the marks `|`, `}`, `o` and `{`. -/
structure Relationship where
  source : String
  target : String
  sourceCardinality : String
  targetCardinality : String
  label : String := ""
deriving Repr, DecidableEq, Inhabited

/-- A diagram's content: its entities and relationships in the order of declaration. -/
structure Schema where
  entities : List Entity := []
  relationships : List Relationship := []
deriving Repr, DecidableEq, Inhabited

/-! ## Cardinalities

A cardinality is read by the marks that occur in it, wherever they stand. -/

/-- The end takes exactly one entity. -/
def exactlyOne (cardinality : String) : Bool := Text.hasInfix "||" cardinality

/-- The end takes many entities. -/
def isMany (cardinality : String) : Bool := cardinality.toList.contains '{'

/-- The end may be left out. -/
def isOptional (cardinality : String) : Bool := cardinality.toList.contains 'o'

/-! ## Names -/

/-- Are the two names the same up to case? -/
def sameName (a b : String) : Bool := Text.fold a == Text.fold b

theorem sameName_iff {a b : String} : sameName a b = true ↔ Text.fold a = Text.fold b := by
  simp [sameName]

@[simp] theorem sameName_refl (a : String) : sameName a a = true := by simp [sameName]

theorem sameName_comm (a b : String) : sameName a b = sameName b a := by
  rw [Bool.eq_iff_iff, sameName_iff, sameName_iff, eq_comm]

theorem sameName_trans {a b c : String} (h : sameName a b = true) (h' : sameName b c = true) :
    sameName a c = true :=
  sameName_iff.2 ((sameName_iff.1 h).trans (sameName_iff.1 h'))

namespace Schema

/-! ## Looking names up

A name that is looked for is folded once and not once for every comparison, so these definitions
spell `sameName` out; `entityIndex?_eq` and its companions put it back. -/

/-- The position of the first entity with this name. -/
def entityIndex? (s : Schema) (name : String) : Option Nat :=
  let key := Text.fold name
  s.entities.findIdx? fun e => Text.fold e.name == key

/-- The first entity with this name. -/
def entity? (s : Schema) (name : String) : Option Entity :=
  let key := Text.fold name
  s.entities.find? fun e => Text.fold e.name == key

/-- Is an entity with this name declared? -/
def declares (s : Schema) (name : String) : Bool :=
  let key := Text.fold name
  s.entities.any fun e => Text.fold e.name == key

/-- The relationships that start or end at the name. -/
def touching (s : Schema) (name : String) : List Relationship :=
  let key := Text.fold name
  s.relationships.filter fun r => Text.fold r.source == key || Text.fold r.target == key

theorem entityIndex?_eq (s : Schema) (name : String) :
    s.entityIndex? name = s.entities.findIdx? fun e => sameName e.name name := rfl

theorem declares_eq (s : Schema) (name : String) :
    s.declares name = s.entities.any fun e => sameName e.name name := rfl

/-! ## More declarations -/

/-- Declares an entity after the others. -/
def addEntity (s : Schema) (e : Entity) : Schema := { s with entities := s.entities ++ [e] }

/-- One schema after another. -/
def append (s t : Schema) : Schema where
  entities := s.entities ++ t.entities
  relationships := s.relationships ++ t.relationships

instance : Append Schema := ⟨append⟩

/-- A name is declared exactly when it stands for an entity. -/
theorem isSome_entity? (s : Schema) (name : String) :
    (s.entity? name).isSome = s.declares name := by
  rw [entity?, declares, Bool.eq_iff_iff, List.find?_isSome, List.any_eq_true]

end Schema

end Entigram
