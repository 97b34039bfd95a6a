import Entigram.Classification
import Entigram.Naming.ClassNames

/-!
# Class plans

What the class of an entity will hold, said without any target language: one scalar property for
every attribute, then navigations to the classes of related entities.

The names of one class are claimed in this order, so scalar properties never give way to
navigations.  Navigations come in four groups, taken from the relationships that touch the entity:

1. a collection for every outgoing relationship with many targets,
2. a single value for every outgoing relationship to an owned entity,
3. a single value for every incoming relationship that takes exactly one, unless the entity itself
   is owned,
4. a collection for every incoming relationship whose end is optional and not many.

Within a group the first relationship with an entity's name stands for all of them.
-/

set_option autoImplicit false

namespace Entigram

open Naming

/-! ## Scalar types -/

/-- The types of scalar properties. -/
inductive ScalarType
  | integer
  | text
  | dateTime
deriving Repr, DecidableEq, Inhabited

namespace ScalarType

/-- The type's name in listings. -/
def label : ScalarType → String
  | integer => "integer"
  | text => "text"
  | dateTime => "datetime"

/-- The data types of diagrams that are not text, in lower case. -/
def ofDataType : List (String × ScalarType) :=
  [("int", integer), ("duration", integer), ("string", text), ("datetime", dateTime),
    ("date_of_birth", dateTime), ("created_at", dateTime), ("tagged_at", dateTime),
    ("timestamp", dateTime)]

/-- The scalar type for a data type of a diagram; text for what is not known. -/
def classify (dataType : String) : ScalarType :=
  (ofDataType.lookup (Text.lower dataType)).getD text

end ScalarType

/-! ## Plans -/

/-- A property made from an attribute. -/
structure ScalarProperty where
  name : String
  type : ScalarType
  nullable : Bool
  column : Attribute
deriving Repr, DecidableEq, Inhabited

/-- A property that leads to another class. -/
structure Navigation where
  name : String
  target : String
  isCollection : Bool := false
deriving Repr, DecidableEq, Inhabited

/-- What a class holds. -/
structure EntityPlan where
  entity : Entity
  className : String
  kind : Kind
  properties : List ScalarProperty := []
  navigations : List Navigation := []
deriving Repr, DecidableEq, Inhabited

/-- The first single-valued navigation to a class. -/
def EntityPlan.navigationTo? (p : EntityPlan) (target : String) : Option Navigation :=
  p.navigations.find? fun n => n.target = target && !n.isCollection

namespace Plan

/-! ## Scalar properties -/

/-- Whether a property may be missing: always for a foreign key, and for anything else that is
neither a key nor text. -/
def isNullable (a : Attribute) : Bool :=
  a.isForeignKey || (!a.isPrimaryKey && ScalarType.classify a.dataType != .text)

/-- The property for an attribute, under a given name. -/
def scalar (a : Attribute) (name : String) : ScalarProperty where
  name := name
  type := ScalarType.classify a.dataType
  nullable := isNullable a
  column := a

/-- The properties for attributes, and the names in use after them. -/
def scalars (used : UsedNames) (attributes : List Attribute) : List ScalarProperty × UsedNames :=
  let (names, used') := used.claimAll (attributes.map fun a => pascalCase a.name)
  (List.zipWith scalar attributes names, used')

/-! ## Navigations -/

/-- Keeps the first relationship for every name, up to case, that `endpoint` reads off. -/
def firstPerName (endpoint : Relationship → String) : List Relationship → List Relationship
  | [] => []
  | r :: rs =>
    let key := Text.fold (endpoint r)
    r :: (firstPerName endpoint rs).filter fun r' => Text.fold (endpoint r') != key

theorem firstPerName_cons (endpoint : Relationship → String) (r : Relationship)
    (rs : List Relationship) : firstPerName endpoint (r :: rs) =
      r :: (firstPerName endpoint rs).filter fun r' =>
        !sameName (endpoint r') (endpoint r) := rfl

/-- The four reasons for which a relationship gives a class a navigation. -/
inductive Group
  | outgoingMany
  | outgoingOwned
  | incomingOne
  | incomingOptional
deriving Repr, DecidableEq

namespace Group

/-- The groups in the order of their navigations. -/
def all : List Group := [outgoingMany, outgoingOwned, incomingOne, incomingOptional]

/-- The far end of a relationship, where the navigation leads. -/
def farEnd : Group → Relationship → String
  | outgoingMany, r => r.target
  | outgoingOwned, r => r.target
  | incomingOne, r => r.source
  | incomingOptional, r => r.source

/-- The end that has to be the entity itself. -/
def nearEnd : Group → Relationship → String
  | outgoingMany, r => r.source
  | outgoingOwned, r => r.source
  | incomingOne, r => r.target
  | incomingOptional, r => r.target

/-- The relationships that count, apart from where they start or end. -/
def admits (s : Schema) (e : Entity) : Group → Relationship → Bool
  | outgoingMany, r => isMany r.targetCardinality
  | outgoingOwned, r => (s.entity? r.target).any s.isOwned
  | incomingOne, r => exactlyOne r.targetCardinality && !s.isOwned e
  | incomingOptional, r => isOptional r.targetCardinality && !isMany r.targetCardinality

/-- Does the navigation lead to many? -/
def isCollection : Group → Bool
  | outgoingMany => true
  | outgoingOwned => false
  | incomingOne => false
  | incomingOptional => true

/-- The wanted name of a navigation to a class. -/
def wantedName (g : Group) (target : String) : String :=
  if g.isCollection then pluralize target else target

/-- The relationships that give an entity the navigations of this group. -/
def relationships (s : Schema) (e : Entity) (g : Group) : List Relationship :=
  let key := Text.fold e.name
  firstPerName g.farEnd
    (s.relationships.filter fun r => Text.fold (g.nearEnd r) == key && g.admits s e r)

theorem relationships_eq (s : Schema) (e : Entity) (g : Group) : g.relationships s e =
    firstPerName g.farEnd
      (s.relationships.filter fun r => sameName (g.nearEnd r) e.name && g.admits s e r) := rfl

end Group

/-- A navigation before its name is claimed. -/
structure Link where
  target : String
  group : Group
deriving Repr, DecidableEq

/-- The navigations of an entity, in order, before their names are claimed.  The first relationship
that leads to an undeclared entity makes it fail. -/
def links (s : Schema) (names : ClassNames) (e : Entity) :
    Except UnresolvedReference (List Link) :=
  (Group.all.flatMap fun g => (g.relationships s e).map fun r => (g, r)).mapM fun p => do
    return { target := ← names.resolve (p.1.farEnd p.2) (some p.2), group := p.1 }

/-- Claims names for the navigations. -/
def navigations (used : UsedNames) (links : List Link) : List Navigation :=
  List.zipWith (fun l name => { name, target := l.target, isCollection := l.group.isCollection })
    links (used.claimAll (links.map fun l => l.group.wantedName l.target)).1

/-! ## Whole plans -/

/-- The plan of one entity's class. -/
def entity (s : Schema) (names : ClassNames) (e : Entity) (className : String) :
    Except UnresolvedReference EntityPlan := do
  let (properties, used) := scalars .empty e.attributes
  let links ← links s names e
  return {
    entity := e
    className := className
    kind := s.kind e
    properties := properties
    navigations := navigations used links }

/-- The entities with their class names. -/
def named (s : Schema) (names : ClassNames) : List (Entity × String) :=
  s.entities.zip names.classes

/-- The plans of all classes, in the order of the entities, under the given class names. -/
def entitiesWith (s : Schema) (names : ClassNames) :
    Except UnresolvedReference (List EntityPlan) :=
  (named s names).mapM fun p => entity s names p.1 p.2

/-- The plans of all classes of a schema. -/
def entities (s : Schema) : Except UnresolvedReference (List EntityPlan) :=
  entitiesWith s (.ofSchema s)

end Plan

end Entigram
