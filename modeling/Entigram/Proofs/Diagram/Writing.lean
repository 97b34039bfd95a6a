import Mathlib.Tactic.MkIffOfInductiveProp
import Entigram.Diagram.Reading
import Entigram.Text.WordChar

/-!
# Written diagrams

How a diagram is written down: a sequence of blocks and relationships, each of them as its lines,
every line indented as one likes.

```
CUSTOMER {
  int id PK
  string name
}
CUSTOMER ||--o{ ORDER : "places"
```

The shapes of lines are told apart by little, so not everything can be written in this way: a type
that begins like a comment would be passed over, and a label with a quote at its end would lose it.
`Element.WellFormed` says what can be written.
-/

set_option autoImplicit false

namespace Entigram
namespace Diagram

open Text

/-! ## Lines -/

/-- A part of a written diagram. -/
inductive Element
  | block (e : Entity)
  | edge (r : Relationship)
deriving Repr, DecidableEq

/-- The word for an attribute's flags, if it has any. -/
def flagWords (a : Attribute) : List String :=
  match a.isPrimaryKey, a.isForeignKey with
  | false, false => []
  | true, false => ["PK"]
  | false, true => ["FK"]
  | true, true => ["PK,FK"]

/-- The line of an attribute: its type, its name and its flags. -/
def attributeLine (a : Attribute) : String :=
  " ".intercalate (a.dataType :: a.name :: flagWords a)

/-- The line that opens a block. -/
def openingLine (name : String) : String := name ++ " \x7b"

/-- The line that closes a block. -/
def closingLine : String := "\x7d"

/-- The line of a relationship. -/
def relationshipLine (r : Relationship) : String :=
  r.source ++ " " ++ r.sourceCardinality ++ "--" ++ r.targetCardinality ++ " " ++ r.target ++
    " : \"" ++ r.label ++ "\""

/-- The lines of a part. -/
def Element.lines : Element → List String
  | .block e => openingLine e.name :: e.attributes.map attributeLine ++ [closingLine]
  | .edge r => [relationshipLine r]

/-- The text of a diagram, where the line at position `i` is indented by `indent i` spaces. -/
def written (indent : Nat → Nat) (xs : List Element) : String :=
  "\n".intercalate ((xs.flatMap Element.lines).mapIdx fun i line =>
    String.ofList (List.replicate (indent i) ' ') ++ line)

/-! ## Content -/

/-- The entity of a block. -/
def Element.entity? : Element → Option Entity
  | .block e => some e
  | .edge _ => none

/-- The relationship of a line outside the blocks. -/
def Element.relationship? : Element → Option Relationship
  | .block _ => none
  | .edge r => some r

/-- What a diagram of these parts describes. -/
def described (xs : List Element) : Schema where
  entities := xs.filterMap Element.entity?
  relationships := xs.filterMap Element.relationship?

/-! ## What can be written -/

/-- A condition on the characters of a text is decided by going through the text.  Without this
instance, all the characters there are might be gone through. -/
instance (priority := high) decidableForallChar (p : Char → Prop) [DecidablePred p]
    (cs : List Char) : Decidable (∀ c ∈ cs, p c) :=
  List.decidableBAll p cs

/-- The text begins like a line that says nothing: like the heading or a comment. -/
def startsSilently (s : String) : Bool := startsWith s "erDiagram" || startsWith s "%%"

/-- A word of an attribute's line. -/
@[mk_iff]
structure IsWord (s : String) : Prop where
  nonempty : s ≠ ""
  blankless : ∀ c ∈ s.toList, isBlank c = false
  braceless : '{' ∉ s.toList

instance (s : String) : Decidable (IsWord s) := decidable_of_iff' _ (isWord_iff s)

/-- An attribute that can be written. -/
@[mk_iff]
structure AttributeWellFormed (a : Attribute) : Prop where
  dataType : IsWord a.dataType
  name : IsWord a.name
  /-- The line begins with the type. -/
  loud : startsSilently a.dataType = false

instance (a : Attribute) : Decidable (AttributeWellFormed a) :=
  decidable_of_iff' _ (attributeWellFormed_iff a)

/-- An entity that can be written. -/
@[mk_iff]
structure EntityWellFormed (e : Entity) : Prop where
  nonempty : e.name ≠ ""
  trimmed : trim e.name.toList = e.name.toList
  braceless : '{' ∉ e.name.toList
  /-- A line with these marks would belong to a relationship. -/
  markless : hasInfix "||" e.name = false
  oneLine : ∀ c ∈ e.name.toList, isLineBreak c = false
  loud : startsSilently e.name = false
  attributes : ∀ a ∈ e.attributes, AttributeWellFormed a

instance (e : Entity) : Decidable (EntityWellFormed e) :=
  decidable_of_iff' _ (entityWellFormed_iff e)

/-- A name at an end of a relationship. -/
@[mk_iff]
structure IsName (s : String) : Prop where
  nonempty : s ≠ ""
  letters : ∀ c ∈ s.toList, isWordChar c = true

instance (s : String) : Decidable (IsName s) := decidable_of_iff' _ (isName_iff s)

/-- A cardinality. -/
@[mk_iff]
structure IsCardinality (s : String) : Prop where
  nonempty : s ≠ ""
  marks : ∀ c ∈ s.toList, isMark c = true

instance (s : String) : Decidable (IsCardinality s) := decidable_of_iff' _ (isCardinality_iff s)

/-- A relationship that can be written. -/
@[mk_iff]
structure RelationshipWellFormed (r : Relationship) : Prop where
  source : IsName r.source
  target : IsName r.target
  sourceCardinality : IsCardinality r.sourceCardinality
  targetCardinality : IsCardinality r.targetCardinality
  /-- The line begins with the source, and no name begins like a comment. -/
  loud : startsWith r.source "erDiagram" = false
  oneLine : ∀ c ∈ r.label.toList, isLineBreak c = false
  /-- The quotes around a label cannot be told from its own. -/
  unquotedFirst : r.label.toList.head? ≠ some '"'
  unquotedLast : r.label.toList.getLast? ≠ some '"'

instance (r : Relationship) : Decidable (RelationshipWellFormed r) :=
  decidable_of_iff' _ (relationshipWellFormed_iff r)

/-- A part that can be written. -/
def Element.WellFormed : Element → Prop
  | .block e => EntityWellFormed e
  | .edge r => RelationshipWellFormed r

instance : DecidablePred Element.WellFormed
  | .block e => inferInstanceAs (Decidable (EntityWellFormed e))
  | .edge r => inferInstanceAs (Decidable (RelationshipWellFormed r))

end Diagram
end Entigram
