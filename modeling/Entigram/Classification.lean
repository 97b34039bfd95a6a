import Entigram.Schema

/-!
# The kinds of entities

How an entity is mapped depends on its keys and on the relationships into it.

* An entity is *owned* when some one-to-one relationship leads into it and its key consists of
  exactly its foreign keys (`isOwned`).  Its *owner* is the origin of the first relationship into
  it, whatever that relationship's cardinalities are (`owner?`).
* A *join table* has at least two key columns, all of them foreign keys (`isJoinTable`).
* Of the others, an entity with several key columns needs a composite key, and one with none is
  keyless.

The tests overlap, and `kind` settles their precedence.
-/

set_option autoImplicit false

namespace Entigram

/-- How an entity is mapped. -/
inductive Kind
  | owned
  | joinTable
  | compositeKey
  | keyless
  | regular
deriving Repr, DecidableEq, Inhabited

/-- The kind's name in listings. -/
def Kind.label : Kind → String
  | owned => "owned"
  | joinTable => "join_table"
  | compositeKey => "composite_key"
  | keyless => "keyless"
  | regular => "regular"

/-- Both ends take exactly one entity. -/
def Relationship.isOneToOne (r : Relationship) : Bool :=
  exactlyOne r.targetCardinality && exactlyOne r.sourceCardinality

/-- Two or more key columns, two or more foreign keys, and every key column is a foreign key. -/
def Entity.isJoinTable (e : Entity) : Bool :=
  decide (2 ≤ e.primaryKeys.length) && decide (2 ≤ e.foreignKeys.length)
    && e.primaryKeys.all (·.isForeignKey)

/-- The names of the key columns and of the foreign keys are the same, each as often. -/
def Entity.keysAreForeign (e : Entity) : Bool :=
  (e.primaryKeys.map (·.name)).isPerm (e.foreignKeys.map (·.name))

namespace Schema

/-- The first relationship into an entity of this name. -/
def firstInto? (s : Schema) (name : String) : Option Relationship :=
  let key := Text.fold name
  s.relationships.find? fun r => Text.fold r.target == key

/-- A one-to-one relationship leads into an entity of this name. -/
def hasOneToOneInto (s : Schema) (name : String) : Bool :=
  let key := Text.fold name
  s.relationships.any fun r => r.isOneToOne && Text.fold r.target == key

/-- A one-to-one relationship leads into the entity, and its key is made of its foreign keys. -/
def isOwned (s : Schema) (e : Entity) : Bool := e.keysAreForeign && s.hasOneToOneInto e.name

/-- The entity, if it is declared, from which the first relationship into `e` starts. -/
def owner? (s : Schema) (e : Entity) : Option Entity :=
  (s.firstInto? e.name).bind fun r => s.entity? r.source

/-- The position of the owner. -/
def ownerIndex? (s : Schema) (e : Entity) : Option Nat :=
  (s.firstInto? e.name).bind fun r => s.entityIndex? r.source

/-- The positions of the join tables. -/
def joinTables (s : Schema) : List Nat :=
  (s.entities.zipIdx.filter fun p => p.1.isJoinTable).map (·.2)

/-- Neither owned nor a join table, with several key columns. -/
def needsCompositeKey (s : Schema) (e : Entity) : Bool :=
  !s.isOwned e && !e.isJoinTable && decide (1 < e.primaryKeys.length)

/-- Not owned, and without key columns. -/
def isKeyless (s : Schema) (e : Entity) : Bool := !s.isOwned e && e.primaryKeys.isEmpty

/-- The one kind of an entity: the first of the tests that holds. -/
def kind (s : Schema) (e : Entity) : Kind :=
  if s.isOwned e then .owned
  else if e.isJoinTable then .joinTable
  else if s.needsCompositeKey e then .compositeKey
  else if s.isKeyless e then .keyless
  else .regular

end Schema

theorem Schema.firstInto?_eq (s : Schema) (name : String) :
    s.firstInto? name = s.relationships.find? fun r => sameName r.target name := rfl

theorem Schema.hasOneToOneInto_eq (s : Schema) (name : String) : s.hasOneToOneInto name =
    s.relationships.any fun r => r.isOneToOne && sameName r.target name := rfl

/-- The key names agree with the foreign-key names exactly when one list rearranges the other. -/
theorem Entity.keysAreForeign_iff {e : Entity} :
    e.keysAreForeign = true ↔
      (e.primaryKeys.map (·.name)).Perm (e.foreignKeys.map (·.name)) := by
  rw [Entity.keysAreForeign, List.isPerm_iff]

end Entigram
