import Entigram.Proofs.Plan.Links

/-!
# How many navigations lead to a class

Every group gives a class at most one navigation to another class, and gives it whenever the group
has a relationship between the two (`Group.leadsTo`).  The count for a class is therefore the number
of groups that lead there (`countP_links`, `countP_navigations`).

What makes this exact is that the relationships of a group are told apart by the names at their far
ends while navigations are counted by the classes at theirs.  The two agree because only spellings
of one name lead to one class (`ClassNames.get?_eq_class_iff`).

`navigation_count` says what that comes to in terms of the relationships alone.  A class that is not
the first with its entity's name is out of reach (`target_ne_class`).
-/

set_option autoImplicit false

namespace Entigram

open Naming Attempt

namespace Plan

/-! ## Links to one class -/

/-- Does some relationship of the group lead from the entity to the name? -/
def Group.leadsTo (s : Schema) (e : Entity) (g : Group) (name : String) : Bool :=
  s.relationships.any fun r =>
    sameName (g.nearEnd r) e.name && g.admits s e r && sameName (g.farEnd r) name

/-- A group keeps one relationship to a name if it has any. -/
theorem countP_relationships (s : Schema) (e : Entity) (g : Group) (name : String) :
    (g.relationships s e).countP (fun r => sameName (g.farEnd r) name) =
      (g.leadsTo s e name).toNat := by
  rw [Group.relationships_eq, countP_firstPerName, List.any_filter, Group.leadsTo]

variable {s : Schema} {e t : Entity} {j : Nat} {c cls name : String}

/-- Where every part has at most one hit, the hits are as many as the parts that have one. -/
theorem countP_flatMap_of_toNat {α β : Type} {f : α → List β} {q : β → Bool} {p : α → Bool}
    (h : ∀ x, (f x).countP q = (p x).toNat) (xs : List α) :
    (xs.flatMap f).countP q = xs.countP p := by
  induction xs with
  | nil => rfl
  | cons x xs ih =>
    rw [List.flatMap_cons, List.countP_append, h, ih, List.countP_cons, Nat.add_comm]
    cases p x <;> rfl

/-- The links to a class, one for every group that leads there. -/
theorem countP_links {ls : List Link} (h : links s (.ofSchema s) e = .ok ls)
    (hj : s.entityIndex? name = some j) (hc : (ClassNames.ofSchema s).classes[j]? = some c)
    (q : Group → Bool) :
    ls.countP (fun l => l.target == c && q l.group) =
      Group.all.countP fun g => q g && g.leadsTo s e name := by
  have hclass : ∀ p : Group × Relationship,
      ((ClassNames.ofSchema s).get? (p.1.farEnd p.2) == some c) =
        sameName (p.1.farEnd p.2) name := by
    intro p
    rw [Bool.eq_iff_iff, beq_iff_eq]
    exact ClassNames.get?_eq_class_iff hj hc
  have hgroup : ∀ g : Group, ((g.relationships s e).map fun r => (g, r)).countP
      (fun p => sameName (p.1.farEnd p.2) name && q p.1) = (q g && g.leadsTo s e name).toNat := by
    intro g
    rw [List.countP_map]
    cases hq : q g with
    | false =>
      rw [Bool.false_and, Bool.toNat_false, List.countP_eq_zero]
      intro r _
      simp [hq]
    | true =>
      rw [Bool.true_and, ← countP_relationships]
      refine List.countP_congr fun r _ => ?_
      simp [hq]
  calc ls.countP (fun l => l.target == c && q l.group)
      = (ls.map fun l => (some l.target, l.group)).countP
          (fun x => x.1 == some c && q x.2) := by
        rw [List.countP_map]
        rfl
    _ = (origins s e).countP (fun p => sameName (p.1.farEnd p.2) name && q p.1) := by
        rw [map_links h, List.countP_map]
        refine List.countP_congr fun p _ => ?_
        rw [Function.comp_apply, hclass p]
    _ = Group.all.countP fun g => q g && g.leadsTo s e name :=
        countP_flatMap_of_toNat hgroup Group.all

/-- The navigations to a class, collections or single ones: one for every such group that leads
there. -/
theorem countP_navigations {p : EntityPlan} (h : entity s (.ofSchema s) e cls = .ok p)
    (hj : s.entityIndex? name = some j) (hc : (ClassNames.ofSchema s).classes[j]? = some c)
    (q : Bool → Bool) :
    p.navigations.countP (fun n => n.target == c && q n.isCollection) =
      Group.all.countP fun g => q g.isCollection && g.leadsTo s e name := by
  obtain ⟨ls, hls, rfl⟩ := entity_eq_ok_iff.1 h
  calc (navigations (scalars .empty e.attributes).2 ls).countP
        (fun n => n.target == c && q n.isCollection)
      = ((navigations (scalars .empty e.attributes).2 ls).map
          fun n => (n.target, n.isCollection)).countP (fun x => x.1 == c && q x.2) := by
        rw [List.countP_map]
        rfl
    _ = ls.countP (fun l => l.target == c && q l.group.isCollection) := by
        rw [map_navigations, List.countP_map]
        rfl
    _ = _ := countP_links hls hj hc fun g => q g.isCollection

/-- No navigation leads to the class of an entity that is not the first with its name. -/
theorem target_ne_class {p : EntityPlan} (h : entity s (.ofSchema s) e cls = .ok p)
    (ht : s.entities[j]? = some t) (hc : (ClassNames.ofSchema s).classes[j]? = some c)
    (hj : s.entityIndex? t.name ≠ some j) {n : Navigation} (hn : n ∈ p.navigations) :
    n.target ≠ c := by
  rintro rfl
  obtain ⟨name, hname⟩ := get?_of_mem_navigations h hn
  exact ClassNames.get?_ne_class ht hc hj hname

/-! ## What the groups come to -/

/-- The first entity with a name is what all the spellings of that name stand for. -/
theorem entity?_of_sameName (ht : s.entities[j]? = some t)
    (hj : s.entityIndex? t.name = some j) (h : sameName name t.name = true) :
    s.entity? name = some t := by
  rw [Schema.entity?_eq_bind, Schema.entityIndex?_congr h, hj, Option.bind_some, ht]

theorem leadsTo_outgoingMany : Group.outgoingMany.leadsTo s e name =
    s.relationships.any fun r => sameName r.source e.name && sameName r.target name &&
      isMany r.targetCardinality :=
  List.any_congr rfl fun _ => Bool.and_right_comm _ _ _

theorem leadsTo_outgoingOwned (ht : s.entities[j]? = some t)
    (hj : s.entityIndex? t.name = some j) :
    Group.outgoingOwned.leadsTo s e t.name = (s.isOwned t &&
      s.relationships.any fun r => sameName r.source e.name && sameName r.target t.name) := by
  rw [List.and_any_distrib_left]
  refine List.any_congr rfl fun r => ?_
  simp only [Group.nearEnd, Group.admits, Group.farEnd]
  cases htarget : sameName r.target t.name with
  | false => simp
  | true =>
    rw [entity?_of_sameName ht hj htarget, Option.any_some, Bool.and_true, Bool.and_true,
      Bool.and_comm]

theorem leadsTo_incomingOne : Group.incomingOne.leadsTo s e name = (!s.isOwned e &&
    s.relationships.any fun r => sameName r.target e.name && sameName r.source name &&
      exactlyOne r.targetCardinality) := by
  rw [List.and_any_distrib_left]
  refine List.any_congr rfl fun r => ?_
  simp only [Group.nearEnd, Group.admits, Group.farEnd, Bool.and_assoc, Bool.and_comm,
    Bool.and_left_comm]

theorem leadsTo_incomingOptional : Group.incomingOptional.leadsTo s e name =
    s.relationships.any fun r => sameName r.target e.name && sameName r.source name &&
      isOptional r.targetCardinality && !isMany r.targetCardinality := by
  refine List.any_congr rfl fun r => ?_
  simp only [Group.nearEnd, Group.admits, Group.farEnd, Bool.and_assoc, Bool.and_comm,
    Bool.and_left_comm]

/-- The groups of which something holds, one by one. -/
theorem countP_all (q : Group → Bool) : Group.all.countP q =
    (q .outgoingMany).toNat + (q .outgoingOwned).toNat + (q .incomingOne).toNat +
      (q .incomingOptional).toNat := by
  have hite : ∀ b : Bool, (if b = true then 1 else 0) = b.toNat := fun b => by cases b <;> rfl
  rw [Group.all, List.countP_cons, List.countP_cons, List.countP_cons, List.countP_cons,
    List.countP_nil, hite, hite, hite, hite]
  omega

/-- The collections to a class. -/
theorem countP_collections {p : EntityPlan} (h : entity s (.ofSchema s) e cls = .ok p)
    (hj : s.entityIndex? name = some j) (hc : (ClassNames.ofSchema s).classes[j]? = some c) :
    p.navigations.countP (fun n => n.target == c && n.isCollection) =
      (s.relationships.any fun r => sameName r.source e.name && sameName r.target name &&
        isMany r.targetCardinality).toNat +
      (s.relationships.any fun r => sameName r.target e.name && sameName r.source name &&
        isOptional r.targetCardinality && !isMany r.targetCardinality).toNat := by
  have hcount := countP_navigations h hj hc id
  rw [countP_all, leadsTo_outgoingMany, leadsTo_incomingOptional] at hcount
  simpa [Group.isCollection] using hcount

/-- The single navigations to a class. -/
theorem countP_singles {p : EntityPlan} (h : entity s (.ofSchema s) e cls = .ok p)
    (ht : s.entities[j]? = some t) (hj : s.entityIndex? t.name = some j)
    (hc : (ClassNames.ofSchema s).classes[j]? = some c) :
    p.navigations.countP (fun n => n.target == c && !n.isCollection) =
      (s.isOwned t && s.relationships.any fun r =>
        sameName r.source e.name && sameName r.target t.name).toNat +
      (!s.isOwned e && s.relationships.any fun r =>
        sameName r.target e.name && sameName r.source t.name &&
          exactlyOne r.targetCardinality).toNat := by
  have hcount := countP_navigations h hj hc not
  rw [countP_all, leadsTo_outgoingOwned ht hj, leadsTo_incomingOne] at hcount
  simpa [Group.isCollection] using hcount

/-- **The number of navigations.**  To the class of the first entity with a name, `t`, the class of
an entity `e` has as many collections as there are reasons for one: a relationship from `e` to `t`
with many targets, or one from `t` to `e` whose end at `e` is optional and not many.  Of single
navigations it has one if `t` is owned and a relationship leads there, and one if `e` is not owned
and a relationship from `t` takes exactly one `e`.  There are none to any other class. -/
theorem navigation_count (s : Schema) (plans : List EntityPlan) (h : entities s = .ok plans) :
    (∀ (i j : Nat) (e t : Entity), s.entities[i]? = some e → s.entities[j]? = some t →
      s.entityIndex? t.name = some j →
      ∃ p q, plans[i]? = some p ∧ p.entity = e ∧ plans[j]? = some q ∧ q.entity = t ∧
        p.navigations.countP (fun n => n.target == q.className && n.isCollection) =
          (s.relationships.any fun r => sameName r.source e.name && sameName r.target t.name &&
            isMany r.targetCardinality).toNat +
          (s.relationships.any fun r => sameName r.target e.name && sameName r.source t.name &&
            isOptional r.targetCardinality && !isMany r.targetCardinality).toNat ∧
        p.navigations.countP (fun n => n.target == q.className && !n.isCollection) =
          (s.isOwned t && s.relationships.any fun r =>
            sameName r.source e.name && sameName r.target t.name).toNat +
          (!s.isOwned e && s.relationships.any fun r =>
            sameName r.target e.name && sameName r.source t.name &&
              exactlyOne r.targetCardinality).toNat) ∧
    ∀ (j : Nat) (t : Entity) (q : EntityPlan), s.entities[j]? = some t →
      s.entityIndex? t.name ≠ some j → plans[j]? = some q →
      ∀ p ∈ plans, ∀ n ∈ p.navigations, n.target ≠ q.className := by
  constructor
  · intro i j e t he ht hj
    obtain ⟨ce, hce⟩ := ClassNames.exists_class he
    obtain ⟨ct, hct⟩ := ClassNames.exists_class ht
    obtain ⟨p, hp, hep⟩ := exists_plan h he hce
    obtain ⟨q, hq, htq⟩ := exists_plan h ht hct
    refine ⟨p, q, hp, entity_of_eq_ok hep, hq, entity_of_eq_ok htq, ?_, ?_⟩
    · rw [className_of_eq_ok htq]
      exact countP_collections hep hj hct
    · rw [className_of_eq_ok htq]
      exact countP_singles hep ht hj hct
  · intro j t q ht hj hq p hp n hn
    obtain ⟨t', c, ht', hc, htq⟩ := exists_entity h hq
    obtain rfl : t = t' := by simpa [ht] using ht'
    obtain ⟨i, hi⟩ := List.mem_iff_getElem?.1 hp
    obtain ⟨e, ce, -, -, hep⟩ := exists_entity h hi
    rw [className_of_eq_ok htq]
    exact target_ne_class hep ht hc hj hn

/-- Users, their orders and their profiles.  Orders are declared twice, a profile is owned, and
users are related to both in both directions. -/
def shop : Schema where
  entities := [⟨"USER", [⟨"id", "int", true, false⟩]⟩, ⟨"order", []⟩,
    ⟨"Order", [⟨"id", "int", true, false⟩]⟩, ⟨"PROFILE", [⟨"user_id", "int", true, true⟩]⟩]
  relationships := [⟨"USER", "ORDER", "||", "o\x7b", "places"⟩,
    ⟨"Order", "user", "\x7do", "o|", "for"⟩, ⟨"User", "Profile", "||", "||", "has"⟩,
    ⟨"PROFILE", "USER", "||", "||", "of"⟩]

theorem navigation_count_shop : ∃ plans, entities shop = .ok plans ∧
    (∃ p q, plans[0]? = some p ∧ plans[1]? = some q ∧
      p.navigations.countP (fun n => n.target == q.className && n.isCollection) = 2 ∧
      p.navigations.countP (fun n => n.target == q.className && !n.isCollection) = 0) ∧
    (∃ p q, plans[0]? = some p ∧ plans[3]? = some q ∧
      p.navigations.countP (fun n => n.target == q.className && n.isCollection) = 0 ∧
      p.navigations.countP (fun n => n.target == q.className && !n.isCollection) = 2) ∧
    ∀ q, plans[2]? = some q → ∀ p ∈ plans, ∀ n ∈ p.navigations, n.target ≠ q.className := by
  have hok : fault? (entities shop) = none := by decide +kernel
  obtain ⟨plans, h⟩ := fault?_eq_none_iff.1 hok
  obtain ⟨hfirst, hlater⟩ := navigation_count shop plans h
  obtain ⟨p, q, hp, -, hq, -, hmany, hone⟩ := hfirst 0 1 _ _ rfl rfl (by decide +kernel)
  obtain ⟨p', q', hp', -, hq', -, hmany', hone'⟩ := hfirst 0 3 _ _ rfl rfl (by decide +kernel)
  refine ⟨plans, h, ⟨p, q, hp, hq, ?_, ?_⟩, ⟨p', q', hp', hq', ?_, ?_⟩, ?_⟩
  · exact hmany.trans (by decide +kernel)
  · exact hone.trans (by decide +kernel)
  · exact hmany'.trans (by decide +kernel)
  · exact hone'.trans (by decide +kernel)
  · exact fun q hq => hlater 2 _ q rfl (by decide +kernel) hq

end Plan
end Entigram
