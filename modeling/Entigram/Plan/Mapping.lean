import Entigram.Log.Record
import Entigram.Plan.Entity

/-!
# Mapping plans

What the mapping configuration will say: which classes can be queried on their own, which are owned
by which, and what the keys are.  Its five sections are independent of each other, and only the
ownerships can fail: an ownership names the owner's navigation, so the owner's class has to be
planned for it.

An owned entity without a declared owner, or whose owner has no navigation to it, is left out with
a warning, and a join table whose key has not exactly two columns with a note.  These reports come
beside the plan, also when planning fails after them.
-/

set_option autoImplicit false

namespace Entigram

open Naming

/-! ## Plans -/

/-- A set of instances that can be queried. -/
structure QuerySurface where
  className : String
  name : String
deriving Repr, DecidableEq, Inhabited

/-- An owned class, its owner and the owner's navigation to it. -/
structure Ownership where
  owner : String
  owned : String
  navigation : String
deriving Repr, DecidableEq, Inhabited

/-- The key of a class: the properties it is made of. -/
structure KeyPlan where
  className : String
  properties : List String
deriving Repr, DecidableEq, Inhabited

/-- The content of the mapping configuration, section by section. -/
structure MappingPlan where
  querySurfaces : List QuerySurface := []
  ownerships : List Ownership := []
  compositeKeys : List KeyPlan := []
  keyless : List String := []
  joinTableKeys : List KeyPlan := []
deriving Repr, DecidableEq, Inhabited

namespace Plan

/-- Why a mapping cannot be planned. -/
inductive Failure
  /-- The owner's class mentions an entity that is not declared. -/
  | unresolved (reference : UnresolvedReference)
  /-- The given class names do not reach to the owner's position. -/
  | unnamed (position : Nat)
deriving Repr, DecidableEq

/-- What planning a mapping reports. -/
inductive Report
  /-- No declared entity owns this one. -/
  | noOwner (entity : String)
  /-- The owner's class does not lead to the owned class. -/
  | noNavigation (owner owned : String)
  /-- The key of a join table has a number of columns other than two. -/
  | joinTableKeys (entity : String) (columns : Nat)
deriving Repr, DecidableEq

namespace Report

/-- The report's level: an entity left without configuration is worth a warning. -/
def level : Report → Log.Level
  | noOwner _ => .warning
  | noNavigation _ _ => .warning
  | joinTableKeys _ _ => .debug

/-- The report's text. -/
def message : Report → String
  | noOwner entity => s!"No owner found for owned entity {entity}, skipping"
  | noNavigation owner owned =>
    s!"Owner {owner} has no navigation to owned entity {owned}, skipping"
  | joinTableKeys entity columns =>
    s!"Join table {entity} has {columns} key columns, skipping key configuration"

/-- Where reports come from. -/
def origin : Log.Origin where
  component := "er2code.schema.generator"
  operation := "plan_mapping"

/-- The report as a record. -/
def record (r : Report) : Log.Record := ⟨r.level, origin, r.message⟩

end Report

/-! ## The sections -/

/-- The classes that can be queried on their own: neither owned nor join tables. -/
def querySurfaces (s : Schema) (names : ClassNames) : List QuerySurface :=
  let classes := ((named s names).filter fun p => !s.isOwned p.1 && !p.1.isJoinTable).map (·.2)
  List.zipWith QuerySurface.mk classes (UsedNames.empty.claimAll (classes.map pluralize)).1

/-- The plans of all classes, each made when it is first asked for: an owner's plan is asked for by
everything that it owns, and most others not at all. -/
def deferredPlans (s : Schema) (names : ClassNames) :
    List (Thunk (Except UnresolvedReference EntityPlan)) :=
  (named s names).map fun p => Thunk.mk fun _ => entity s names p.1 p.2

/-- The ownership of an owned entity, or the reason why it has none. -/
def ownership (s : Schema) (plans : List (Thunk (Except UnresolvedReference EntityPlan)))
    (e : Entity) (className : String) : Except Failure (Ownership ⊕ Report) :=
  match s.ownerIndex? e with
  | none => .ok (.inr (.noOwner e.name))
  | some i =>
    match plans[i]? with
    | none => .error (.unnamed i)
    | some plan =>
      match plan.get with
      | .error u => .error (.unresolved u)
      | .ok owner =>
        match owner.navigationTo? className with
        | some n =>
          .ok (.inl { owner := owner.className, owned := className, navigation := n.name })
        | none => .ok (.inr (.noNavigation owner.className className))

/-- A result, with what was reported on the way to it. -/
structure Reported (α : Type) where
  reports : List Report
  result : Except Failure α
deriving Repr

/-- Keeps the successes of a list and reports the rest, up to the first failure. -/
def collect {α : Type} : List (Except Failure (α ⊕ Report)) → Reported (List α)
  | [] => ⟨[], .ok []⟩
  | .error f :: _ => ⟨[], .error f⟩
  | .ok (.inl a) :: rest =>
    let r := collect rest
    ⟨r.reports, r.result.map (a :: ·)⟩
  | .ok (.inr report) :: rest =>
    let r := collect rest
    ⟨report :: r.reports, r.result⟩

/-- The ownerships of the owned entities. -/
def ownerships (s : Schema) (names : ClassNames) : Reported (List Ownership) :=
  let plans := deferredPlans s names
  collect (((named s names).filter fun p => s.isOwned p.1).map fun p => ownership s plans p.1 p.2)

/-- The names of the key properties of an entity's class. -/
def keyNames (isKey : Attribute → Bool) (e : Entity) : List String :=
  ((scalars .empty e.attributes).1.filter fun p => isKey p.column).map (·.name)

/-- The keys of the entities that need a composite key. -/
def compositeKeys (s : Schema) (names : ClassNames) : List KeyPlan :=
  ((named s names).filter fun p => s.needsCompositeKey p.1).map fun p =>
    { className := p.2, properties := keyNames (·.isPrimaryKey) p.1 }

/-- The classes without a key. -/
def keylessClasses (s : Schema) (names : ClassNames) : List String :=
  ((named s names).filter fun p => s.isKeyless p.1).map (·.2)

/-- The key of a join table, or the reason why it is not configured. -/
def joinTableKey (e : Entity) (className : String) : KeyPlan ⊕ Report :=
  let keys := keyNames (fun a => a.isPrimaryKey && a.isForeignKey) e
  if keys.length = 2 then .inl { className, properties := keys }
  else .inr (.joinTableKeys e.name keys.length)

/-- The keys of the join tables. -/
def joinTableKeys (s : Schema) (names : ClassNames) : Reported (List KeyPlan) :=
  collect (((named s names).filter fun p => p.1.isJoinTable).map fun p =>
    .ok (joinTableKey p.1 p.2))

/-! ## The whole plan -/

/-- The mapping plan under the given class names. -/
def mappingWith (s : Schema) (names : ClassNames) : Reported MappingPlan :=
  let owned := ownerships s names
  match owned.result with
  | .error f => ⟨owned.reports, .error f⟩
  | .ok ownerships =>
    let joins := joinTableKeys s names
    ⟨owned.reports ++ joins.reports, joins.result.map fun joinTableKeys =>
      { querySurfaces := querySurfaces s names
        ownerships := ownerships
        compositeKeys := compositeKeys s names
        keyless := keylessClasses s names
        joinTableKeys := joinTableKeys }⟩

/-- The mapping plan of a schema. -/
def mapping (s : Schema) : Reported MappingPlan := mappingWith s (.ofSchema s)

end Plan

end Entigram
