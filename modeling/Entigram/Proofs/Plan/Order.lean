import Entigram.Proofs.Plan.Correspondence
import Entigram.Proofs.Plan.Failure
import Entigram.Proofs.Plan.Navigation

/-!
# The order of relationships

Planning asks for first relationships in several places: the first into an owned entity tells its
owner, the first to a name gives a class its navigation, and a navigation that comes first has the
first choice of a name.  So the order decides on owners, and on the names and the order of
navigations.  It decides on nothing else (`reordered_alike`).

The tests of planning ask whether there is a relationship of some form, so they come out the same
in every order (`Reordered.any_eq`): whether an entity is owned, of which kind it is, and whether a
group of navigations leads to a name.

* An entity's plan has its navigations by these tests: they are counted by the groups that lead to
  a class (`countP_navigations`).  So there are as many of each sort to each class
  (`navigations_perm`), although the links themselves are made from the first relationship to a
  name.
* Whether planning fails is told by the relationships alone (`exists_error_iff`), although the order
  tells with which of them it does.
* The sections of a mapping, all but the ownerships, are made from the entities and these tests.
-/

set_option autoImplicit false

namespace Entigram

open Naming

namespace Schema

/-- The same entities, with the same relationships in any order. -/
structure Reordered (s t : Schema) : Prop where
  entities : s.entities = t.entities
  relationships : s.relationships.Perm t.relationships

/-! ## What does not depend on the order -/

namespace Reordered

variable {s t : Schema}

protected theorem symm (h : s.Reordered t) : t.Reordered s :=
  ⟨h.entities.symm, h.relationships.symm⟩

/-- Whether there is a relationship of some form. -/
theorem any_eq (h : s.Reordered t) (f : Relationship → Bool) :
    s.relationships.any f = t.relationships.any f :=
  h.relationships.any_eq

theorem entityIndex?_eq (h : s.Reordered t) : s.entityIndex? = t.entityIndex? :=
  eq_of_entities h.entities entityIndex? fun _ _ _ => rfl

theorem declares_eq (h : s.Reordered t) : s.declares = t.declares :=
  eq_of_entities h.entities declares fun _ _ _ => rfl

theorem ofSchema_eq (h : s.Reordered t) : ClassNames.ofSchema s = ClassNames.ofSchema t :=
  ofSchema_congr h.entities

theorem isOwned_eq (h : s.Reordered t) : s.isOwned = t.isOwned := by
  funext e
  rw [isOwned, isOwned, hasOneToOneInto, hasOneToOneInto, h.any_eq]

end Reordered
end Schema

namespace Plan

open Attempt

variable {s t : Schema}

/-! ## Failures -/

theorem occurs_eq_of_reordered (h : s.Reordered t) (e : Entity) (g : Gap) :
    g.occurs s e = g.occurs t e := by
  funext r
  cases g <;> simp only [Gap.occurs, h.declares_eq, h.isOwned_eq]

/-- In another order planning may fail with another fault, but it fails. -/
theorem exists_error_of_reordered (h : s.Reordered t) (hs : ∃ u, entities s = .error u) :
    ∃ u, entities t = .error u := by
  obtain ⟨r, hr, e, he, g, hg⟩ := (exists_error_iff s).1 hs
  rw [occurs_eq_of_reordered h] at hg
  exact (exists_error_iff t).2 ⟨r, h.relationships.mem_iff.1 hr, e, h.entities ▸ he, g, hg⟩

theorem exists_ok_of_reordered (h : s.Reordered t) (hs : ∃ ps, entities s = .ok ps) :
    ∃ qs, entities t = .ok qs := by
  cases ht : entities t with
  | ok qs => exact ⟨qs, rfl⟩
  | error u =>
    obtain ⟨ps, hps⟩ := hs
    obtain ⟨u', hu'⟩ := exists_error_of_reordered h.symm ⟨u, ht⟩
    rw [hps] at hu'
    cases hu'

/-! ## Navigations -/

theorem leadsTo_eq_of_reordered (h : s.Reordered t) (e : Entity) (g : Group) (name : String) :
    g.leadsTo s e name = g.leadsTo t e name := by
  rw [Group.leadsTo, Group.leadsTo, Group.admits_congr h.entities h.isOwned_eq, h.any_eq]

/-- **As many navigations of each sort to each class.** -/
theorem navigations_perm (h : s.Reordered t) {e : Entity} {c : String} {p q : EntityPlan}
    (hp : entity s (.ofSchema s) e c = .ok p) (hq : entity t (.ofSchema t) e c = .ok q) :
    (p.navigations.map fun n => (n.target, n.isCollection)).Perm
      (q.navigations.map fun n => (n.target, n.isCollection)) := by
  have hcount : ∀ (ns : List Navigation) (cls : String) (many : Bool),
      (ns.map fun n => (n.target, n.isCollection)).count (cls, many) =
        ns.countP fun n => n.target == cls && n.isCollection == many := by
    intro ns cls many
    rw [List.count, List.countP_map]
    rfl
  rw [List.perm_iff_count]
  rintro ⟨cls, many⟩
  rw [hcount, hcount]
  by_cases hreach : ∃ name, (ClassNames.ofSchema s).get? name = some cls
  · obtain ⟨name, hname⟩ := hreach
    rw [ClassNames.get?_ofSchema] at hname
    obtain ⟨j, hj, hcls⟩ := Option.bind_eq_some_iff.1 hname
    rw [countP_navigations hp hj hcls (· == many),
      countP_navigations hq (h.entityIndex?_eq ▸ hj) (h.ofSchema_eq ▸ hcls) (· == many)]
    simp only [leadsTo_eq_of_reordered h]
  · -- no name stands for this class, so nothing leads there in any order
    have hzero : ∀ ns : List Navigation,
        (∀ n ∈ ns, ∃ name, (ClassNames.ofSchema s).get? name = some n.target) →
          (ns.countP fun n => n.target == cls && n.isCollection == many) = 0 := by
      intro ns hns
      refine List.countP_eq_zero.2 fun n hn hcls => hreach ?_
      rw [Bool.and_eq_true, beq_iff_eq] at hcls
      exact hcls.1 ▸ hns n hn
    rw [hzero _ fun n hn => get?_of_mem_navigations hp hn,
      hzero _ fun n hn => h.ofSchema_eq ▸ get?_of_mem_navigations hq hn]

/-! ## Class plans -/

/-- Plans of one class that differ in the names and the order of their navigations only. -/
structure AlikeEntity (p q : EntityPlan) : Prop where
  entity : p.entity = q.entity
  className : p.className = q.className
  kind : p.kind = q.kind
  properties : p.properties = q.properties
  navigations : (p.navigations.map fun n => (n.target, n.isCollection)).Perm
    (q.navigations.map fun n => (n.target, n.isCollection))

theorem alikeEntity_of_reordered (h : s.Reordered t) {e : Entity} {c : String} {p q : EntityPlan}
    (hp : entity s (.ofSchema s) e c = .ok p) (hq : entity t (.ofSchema t) e c = .ok q) :
    AlikeEntity p q := by
  have hnavigations := navigations_perm h hp hq
  obtain ⟨ls, -, rfl⟩ := entity_eq_ok_iff.1 hp
  obtain ⟨ls', -, rfl⟩ := entity_eq_ok_iff.1 hq
  exact ⟨rfl, rfl, congrFun (Schema.kind_congr h.isOwned_eq) e, rfl, hnavigations⟩

theorem forall₂_alikeEntity (h : s.Reordered t) {ps qs : List EntityPlan}
    (hs : entities s = .ok ps) (ht : entities t = .ok qs) : List.Forall₂ AlikeEntity ps qs := by
  rw [entities, entitiesWith, ← Schema.named_congr h.entities, ← h.ofSchema_eq] at ht
  refine forall₂_of_mapM_eq_ok hs ht fun x p q hp hq => ?_
  rw [h.ofSchema_eq] at hq
  exact alikeEntity_of_reordered h hp hq

/-! ## Mappings -/

/-- Mapping plans that differ in their ownerships only. -/
structure AlikeMapping (m n : MappingPlan) : Prop where
  querySurfaces : m.querySurfaces = n.querySurfaces
  compositeKeys : m.compositeKeys = n.compositeKeys
  keyless : m.keyless = n.keyless
  joinTableKeys : m.joinTableKeys = n.joinTableKeys

theorem alikeMapping_of_reordered (h : s.Reordered t) {m n : MappingPlan}
    (hm : (mapping s).result = .ok m) (hn : (mapping t).result = .ok n) : AlikeMapping m n := by
  obtain ⟨os, ks, -, hks, rfl⟩ := mapping_eq_ok_iff.1 hm
  obtain ⟨os', ks', -, hks', rfl⟩ := mapping_eq_ok_iff.1 hn
  obtain ⟨hsurfaces, hcomposite, hkeyless, hjoins⟩ := sections_congr h.entities h.isOwned_eq
  rw [hjoins, hks'] at hks
  exact ⟨hsurfaces, hcomposite, hkeyless, (Except.ok.inj hks).symm⟩

/-! ## The effect of the order -/

/-- **What the order of relationships cannot change.**  If the relationships of a schema are put in
another order, planning still succeeds if it did.  Class by class the plans are the same but for the
names and the order of navigations, and the mappings are the same but for the ownerships. -/
theorem reordered_alike (h : s.Reordered t) :
    ((∃ ps, entities s = .ok ps) ↔ ∃ qs, entities t = .ok qs) ∧
    ∀ ps qs, entities s = .ok ps → entities t = .ok qs →
      List.Forall₂ AlikeEntity ps qs ∧
      ∃ m n, (mapping s).result = .ok m ∧ (mapping t).result = .ok n ∧ AlikeMapping m n := by
  refine ⟨⟨exists_ok_of_reordered h, exists_ok_of_reordered h.symm⟩, fun ps qs hs ht => ?_⟩
  obtain ⟨m, hm⟩ := exists_mapping hs
  obtain ⟨n, hn⟩ := exists_mapping ht
  exact ⟨forall₂_alikeEntity h hs ht, m, n, hm, hn, alikeMapping_of_reordered h hm hn⟩

/-- Two collections of a gallery want the same name, and its lock could be owned by either of two
entities. -/
def gallery : Schema where
  entities := [⟨"GALLERY", [⟨"id", "int", true, false⟩]⟩,
    ⟨"DRAWING", [⟨"id", "int", true, false⟩]⟩, ⟨"DRAWINGS", []⟩,
    ⟨"LOCK", [⟨"gallery_id", "int", true, true⟩]⟩]
  relationships := [⟨"GALLERY", "DRAWING", "||", "o\x7b", "shows"⟩,
    ⟨"GALLERY", "DRAWINGS", "||", "o\x7b", "keeps"⟩, ⟨"GALLERY", "LOCK", "||", "||", "has"⟩,
    ⟨"DRAWING", "LOCK", "||", "||", "has"⟩]

/-- The gallery with its relationships the other way round. -/
def galleryReversed : Schema where
  entities := gallery.entities
  relationships := gallery.relationships.reverse

/-- The navigations of all classes, by name and target. -/
def navigationNames (ps : List EntityPlan) : List (List (String × String)) :=
  ps.map fun p => p.navigations.map fun n => (n.name, n.target)

theorem reordered_alike_gallery : ∃ ps qs m n,
    entities gallery = .ok ps ∧ entities galleryReversed = .ok qs ∧
    (mapping gallery).result = .ok m ∧ (mapping galleryReversed).result = .ok n ∧
    List.Forall₂ AlikeEntity ps qs ∧ AlikeMapping m n ∧
    navigationNames ps = [[("Drawings", "Drawing"), ("Drawings2", "Drawings"), ("Lock", "Lock")],
      [("Lock", "Lock")], [], []] ∧
    navigationNames qs = [[("Drawings", "Drawings"), ("Drawings2", "Drawing"), ("Lock", "Lock")],
      [("Lock", "Lock")], [], []] ∧
    m.ownerships = [⟨"Gallery", "Lock", "Lock"⟩] ∧
    n.ownerships = [⟨"Drawing", "Lock", "Lock"⟩] := by
  have h : gallery.Reordered galleryReversed := ⟨rfl, (List.reverse_perm _).symm⟩
  obtain ⟨hiff, halike⟩ := reordered_alike h
  have hok : fault? (entities gallery) = none := by decide +kernel
  obtain ⟨ps, hs⟩ := fault?_eq_none_iff.1 hok
  obtain ⟨qs, ht⟩ := hiff.1 ⟨ps, hs⟩
  obtain ⟨hentities, m, n, hm, hn, hmapping⟩ := halike ps qs hs ht
  refine ⟨ps, qs, m, n, hs, ht, hm, hn, hentities, hmapping, ?_, ?_, ?_, ?_⟩
  · refine eq_of_map_toOption navigationNames hs ?_
    decide +kernel
  · refine eq_of_map_toOption navigationNames ht ?_
    decide +kernel
  · refine eq_of_map_toOption (·.ownerships) hm ?_
    decide +kernel
  · refine eq_of_map_toOption (·.ownerships) hn ?_
    decide +kernel

end Plan
end Entigram
