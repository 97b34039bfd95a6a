import Entigram.Proofs.Plan.Correspondence
import Entigram.Proofs.Plan.Ownership

/-!
# One more entity

An entity that is declared after all others leaves what was planned before as it is, if no
relationship gets another meaning by it (`addEntity_undisturbed`).  The entity may well have a name
that is declared already, and then all relationships of its namesake touch it as well: it may be
owned, and its class has navigations.  Still nobody leads to it, because a name stands for the first
entity declared with it.

So the names that relationships mention stand for the same entities as before
(`entityIndex?_addEntity`), and classes are numbered in the order of the entities, so that the new
class comes last and the others keep their names (`exists_classes_addEntity`).  Which entities are
owned is told by the relationships alone.  What is left is to see that every section of a mapping is
made entity by entity, and that the new entity, if it is owned, is refused
(`ownership_addEntity_refused`).
-/

set_option autoImplicit false

namespace Entigram

open Naming Attempt

namespace Schema

variable {s : Schema} {e : Entity}

/-! ## Names -/

/-- Names that are not those of the new entity, and names that were declared, stand where they
stood. -/
theorem entityIndex?_addEntity {name : String}
    (h : sameName e.name name = true → s.declares name = true) :
    (s.addEntity e).entityIndex? name = s.entityIndex? name := by
  rw [entityIndex?_eq, entityIndex?_eq, addEntity, List.findIdx?_append, ← entityIndex?_eq]
  cases hi : s.entityIndex? name with
  | some i => rfl
  | none =>
    rw [entityIndex?_eq_none_iff] at hi
    have hname : sameName e.name name = false :=
      Bool.eq_false_iff.2 fun hname => by simp [h hname] at hi
    simp [List.findIdx?_cons, hname]

/-- No relationship gets another meaning by the new entity: its name is declared already, or no
relationship mentions it. -/
def DeclaredOrUnmentioned (s : Schema) (e : Entity) : Prop :=
  s.declares e.name = true ∨
    ∀ r ∈ s.relationships, sameName r.source e.name = false ∧ sameName r.target e.name = false

namespace DeclaredOrUnmentioned

theorem declares_of_sameName {name : String} (hdeclared : s.declares e.name = true)
    (h : sameName e.name name = true) : s.declares name = true := by
  rw [← isSome_entityIndex?, ← entityIndex?_congr h, isSome_entityIndex?]
  exact hdeclared

/-- The ends of relationships stand for the same entities as before. -/
theorem endpoint (h : s.DeclaredOrUnmentioned e) {r : Relationship} (hr : r ∈ s.relationships)
    {name : String} (hname : name = r.source ∨ name = r.target) :
    (s.addEntity e).entityIndex? name = s.entityIndex? name := by
  refine entityIndex?_addEntity fun hsame => ?_
  rcases h with hdeclared | hunmentioned
  · exact declares_of_sameName hdeclared hsame
  · obtain ⟨hsource, htarget⟩ := hunmentioned r hr
    rw [sameName_comm] at hsame
    rcases hname with rfl | rfl
    · simp [hsource] at hsame
    · simp [htarget] at hsame

theorem farEnd (h : s.DeclaredOrUnmentioned e) {r : Relationship} (hr : r ∈ s.relationships)
    (g : Plan.Group) : (s.addEntity e).entityIndex? (g.farEnd r) = s.entityIndex? (g.farEnd r) := by
  refine h.endpoint hr ?_
  cases g
  case outgoingMany | outgoingOwned => exact .inr rfl
  case incomingOne | incomingOptional => exact .inl rfl

end DeclaredOrUnmentioned

theorem lt_of_entityIndex? {name : String} {i : Nat} (h : s.entityIndex? name = some i) :
    i < s.entities.length := by
  obtain ⟨x, hx, -⟩ := exists_of_entityIndex? h
  exact (List.getElem?_eq_some_iff.1 hx).1

/-- A name that stands where it stood stands for the same entity. -/
theorem entity?_addEntity {name : String}
    (h : (s.addEntity e).entityIndex? name = s.entityIndex? name) :
    (s.addEntity e).entity? name = s.entity? name := by
  rw [entity?_eq_bind, entity?_eq_bind, h]
  refine Option.bind_congr fun i hi => ?_
  rw [addEntity, List.getElem?_append_left (lt_of_entityIndex? hi)]

/-- Owners stand where they stood. -/
theorem ownerIndex?_addEntity (h : s.DeclaredOrUnmentioned e) :
    (s.addEntity e).ownerIndex? = s.ownerIndex? := by
  funext x
  have hfirst : (s.addEntity e).firstInto? x.name = s.firstInto? x.name := rfl
  rw [ownerIndex?, ownerIndex?, hfirst]
  exact Option.bind_congr fun r hr => h.endpoint (List.mem_of_find?_eq_some hr) (.inl rfl)

end Schema

namespace Naming.ClassNames

variable {s : Schema} {e : Entity}

/-- **The new class comes last**, and the others keep their names. -/
theorem exists_classes_addEntity (s : Schema) (e : Entity) :
    ∃ c, (ofSchema (s.addEntity e)).classes = (ofSchema s).classes ++ [c] := by
  rw [ofSchema, Schema.addEntity, List.map_append, UsedNames.claimAll_append]
  exact ⟨_, rfl⟩

/-- A name that stands where it stood has the same class. -/
theorem get?_addEntity {name : String}
    (h : (s.addEntity e).entityIndex? name = s.entityIndex? name) :
    (ofSchema (s.addEntity e)).get? name = (ofSchema s).get? name := by
  obtain ⟨c, hc⟩ := exists_classes_addEntity s e
  rw [get?_ofSchema, get?_ofSchema, h, hc]
  refine Option.bind_congr fun i hi => ?_
  rw [List.getElem?_append_left (by simpa using Schema.lt_of_entityIndex? hi)]

end Naming.ClassNames

namespace Plan

variable {s : Schema} {e : Entity}

/-! ## Class plans -/

/-- A group takes the same relationships. -/
theorem relationships_addEntity (h : s.DeclaredOrUnmentioned e) (x : Entity) (g : Group) :
    g.relationships (s.addEntity e) x = g.relationships s x := by
  rw [Group.relationships_eq, Group.relationships_eq]
  refine congrArg (firstPerName g.farEnd) (List.filter_congr fun r hr => ?_)
  have howned : (s.addEntity e).isOwned = s.isOwned := rfl
  have hadmits : g.admits (s.addEntity e) x r = g.admits s x r := by
    have htarget := Schema.entity?_addEntity (h.endpoint hr (.inr rfl))
    cases g <;> simp only [Group.admits, howned, htarget]
  rw [hadmits]

/-- **The plan of a class is the same**, that of the new entity included. -/
theorem entity_addEntity (h : s.DeclaredOrUnmentioned e) (x : Entity) (c : String) :
    entity (s.addEntity e) (.ofSchema (s.addEntity e)) x c = entity s (.ofSchema s) x c := by
  have hkind : (s.addEntity e).kind x = s.kind x := rfl
  refine (entity_agree hkind (links_agree (R := fun r r' => r = r' ∧ r ∈ s.relationships)
    (fun g => ?_) fun g r r' hr => ?_) c).eq fun _ _ hu => hu
  · rw [relationships_addEntity h]
    exact List.forall₂_same.2 fun r hr => ⟨rfl, mem_of_mem_relationships hr⟩
  · obtain ⟨rfl, hr⟩ := hr
    rw [ClassNames.resolve, ClassNames.resolve, ClassNames.get?_addEntity (h.farEnd hr g)]
    split
    · exact .ok _
    · exact .error rfl

/-- The new entity is named after the others. -/
theorem named_addEntity {c : String}
    (hc : (ClassNames.ofSchema (s.addEntity e)).classes = (ClassNames.ofSchema s).classes ++ [c]) :
    named (s.addEntity e) (.ofSchema (s.addEntity e)) = named s (.ofSchema s) ++ [(e, c)] := by
  rw [named, hc, Schema.addEntity, List.zip_append (by simp)]
  rfl

/-- The new class is planned after the others. -/
theorem entities_addEntity (h : s.DeclaredOrUnmentioned e) {c : String}
    (hc : (ClassNames.ofSchema (s.addEntity e)).classes = (ClassNames.ofSchema s).classes ++ [c]) :
    entities (s.addEntity e) = do
      let plans ← entities s
      let p ← entity s (.ofSchema s) e c
      return plans ++ [p] := by
  have hstep : (fun x : Entity × String =>
      entity (s.addEntity e) (.ofSchema (s.addEntity e)) x.1 x.2) =
      fun x => entity s (.ofSchema s) x.1 x.2 := funext fun x => entity_addEntity h x.1 x.2
  rw [entities, entitiesWith, hstep, named_addEntity hc, List.mapM_append]
  simp [entities, entitiesWith]

/-! ## Sections -/

/-- The second list is the first, or has one more entry, which is for the class `c`. -/
def ExtendedBy {α : Type} (className : α → String) (c : String) (xs ys : List α) : Prop :=
  ys = xs ∨ ∃ y, className y = c ∧ ys = xs ++ [y]

/-- What a further class `c` makes of a mapping: the ownerships stay, and every other section has at
most one more entry, at its end. -/
structure Grown (c : String) (m n : MappingPlan) : Prop where
  ownerships : n.ownerships = m.ownerships
  querySurfaces : ExtendedBy QuerySurface.className c m.querySurfaces n.querySurfaces
  compositeKeys : ExtendedBy KeyPlan.className c m.compositeKeys n.compositeKeys
  keyless : ExtendedBy id c m.keyless n.keyless
  joinTableKeys : ExtendedBy KeyPlan.className c m.joinTableKeys n.joinTableKeys

/-- A section with one entry for each class of some sort. -/
theorem extendedBy_map_filter {α β : Type} {className : β → String} (xs : List α) {x : α}
    (f : α → Bool) (g : α → β) :
    ExtendedBy className (className (g x)) ((xs.filter f).map g)
      (((xs ++ [x]).filter f).map g) := by
  rw [List.filter_append, List.map_append]
  cases hx : f x with
  | false => exact .inl (by simp [hx])
  | true => exact .inr ⟨g x, rfl, by simp [hx]⟩

/-- A further surface takes its name after the others. -/
theorem querySurfaces_addEntity {c : String}
    (hc : (ClassNames.ofSchema (s.addEntity e)).classes = (ClassNames.ofSchema s).classes ++ [c]) :
    ExtendedBy QuerySurface.className c (querySurfaces s (.ofSchema s))
      (querySurfaces (s.addEntity e) (.ofSchema (s.addEntity e))) := by
  have howned : (s.addEntity e).isOwned = s.isOwned := rfl
  rw [querySurfaces, querySurfaces, named_addEntity hc, howned, List.filter_append,
    List.map_append]
  cases hx : !s.isOwned e && !e.isJoinTable with
  | false => exact .inl (by simp [hx])
  | true =>
    rw [List.filter_singleton, hx, cond_true, List.map_append, UsedNames.claimAll_append,
      List.zipWith_append (by simp)]
    exact .inr ⟨⟨c, _⟩, rfl, rfl⟩

/-- Keeping and reporting, first one part and then the other. -/
theorem result_collect_append {α : Type} (xs ys : List (Except Failure (α ⊕ Report))) :
    (collect (xs ++ ys)).result = do
      let as ← (collect xs).result
      return as ++ (← (collect ys).result) := by
  induction xs with
  | nil => cases h : (collect ys).result <;> simp [collect, h] <;> rfl
  | cons x xs ih =>
    match x with
    | .error f => rfl
    | .ok (.inl a) =>
      simp only [List.cons_append, collect, ih]
      cases (collect xs).result with
      | error f => rfl
      | ok as => cases (collect ys).result <;> rfl
    | .ok (.inr report) => exact ih

/-- A further join table has its key after the others. -/
theorem joinTableKeys_addEntity {c : String}
    (hc : (ClassNames.ofSchema (s.addEntity e)).classes = (ClassNames.ofSchema s).classes ++ [c])
    {ks ks' : List KeyPlan} (hks : (joinTableKeys s (.ofSchema s)).result = .ok ks)
    (hks' : (joinTableKeys (s.addEntity e) (.ofSchema (s.addEntity e))).result = .ok ks') :
    ExtendedBy KeyPlan.className c ks ks' := by
  rw [joinTableKeys, named_addEntity hc, List.filter_append, List.map_append,
    result_collect_append, bind_eq_ok_iff] at hks'
  obtain ⟨as, has, hrest⟩ := hks'
  obtain ⟨bs, hbs, hks'⟩ := bind_eq_ok_iff.1 hrest
  obtain rfl : as = ks := by
    rw [joinTableKeys, has] at hks
    injection hks
  obtain rfl : as ++ bs = ks' := by injection hks'
  cases hx : e.isJoinTable with
  | false =>
    obtain rfl : [] = bs := by simpa [hx, collect] using hbs
    exact .inl (List.append_nil as)
  | true =>
    rw [List.filter_singleton, hx, cond_true, List.map_singleton, joinTableKey] at hbs
    split at hbs
    · obtain rfl : [_] = bs := by injection hbs
      exact .inr ⟨_, rfl, rfl⟩
    · obtain rfl : [] = bs := by injection hbs
      exact .inl (List.append_nil as)

/-! ## Ownerships -/

/-- The plans that were deferred stay, and the new one comes last. -/
theorem deferredPlans_addEntity (h : s.DeclaredOrUnmentioned e) {c : String}
    (hc : (ClassNames.ofSchema (s.addEntity e)).classes = (ClassNames.ofSchema s).classes ++ [c]) :
    deferredPlans (s.addEntity e) (.ofSchema (s.addEntity e)) =
      deferredPlans s (.ofSchema s) ++ [Thunk.mk fun _ => entity s (.ofSchema s) e c] := by
  rw [deferredPlans, named_addEntity hc, List.map_append]
  simp only [entity_addEntity h]
  rfl

/-- What becomes of an entity that was there before stays the same. -/
theorem ownership_addEntity (h : s.DeclaredOrUnmentioned e) {c : String}
    (hc : (ClassNames.ofSchema (s.addEntity e)).classes = (ClassNames.ofSchema s).classes ++ [c])
    (x : Entity) (d : String) :
    ownership (s.addEntity e) (deferredPlans (s.addEntity e) (.ofSchema (s.addEntity e))) x d =
      ownership s (deferredPlans s (.ofSchema s)) x d := by
  rw [ownership, ownership, Schema.ownerIndex?_addEntity h, deferredPlans_addEntity h hc]
  cases hi : s.ownerIndex? x with
  | none => rfl
  | some i =>
    obtain ⟨r, -, hr⟩ := ownerIndex?_eq_some_iff.1 hi
    have hlt : i < (deferredPlans s (.ofSchema s)).length := by
      simpa [deferredPlans, named] using Schema.lt_of_entityIndex? hr
    dsimp only
    rw [List.getElem?_append_left hlt]

/-- **The new entity gets no ownership.**  Either nobody owns it, or its name stands for an entity
that was declared before it. -/
theorem ownership_addEntity_refused (h : s.DeclaredOrUnmentioned e) {c : String}
    (hc : (ClassNames.ofSchema (s.addEntity e)).classes = (ClassNames.ofSchema s).classes ++ [c])
    (howned : s.isOwned e = true) (o : Ownership) :
    ownership (s.addEntity e) (deferredPlans (s.addEntity e) (.ofSchema (s.addEntity e))) e c ≠
      .ok (.inl o) := by
  intro hy
  have hdeclared : s.declares e.name = true := by
    refine h.resolve_right fun hunmentioned => ?_
    rw [Schema.isOwned, Bool.and_eq_true, Schema.hasOneToOneInto_eq, List.any_eq_true] at howned
    obtain ⟨-, r, hr, hinto⟩ := howned
    simp [(hunmentioned r hr).2] at hinto
  have hearlier : (s.addEntity e).entityIndex? e.name ≠ some s.entities.length := by
    rw [Schema.entityIndex?_addEntity fun _ => hdeclared]
    exact fun hi => Nat.lt_irrefl _ (Schema.lt_of_entityIndex? hi)
  have hplace : isPlaced (s.addEntity e) e s.entities.length = false := by
    rw [isPlaced, beq_false_of_ne hearlier, Bool.and_false, Bool.false_and]
  have hsettled := ownership_settled (s := s.addEntity e) (i := s.entities.length)
    (by simp [Schema.addEntity]) (by rw [hc]; simp) howned hy
  rw [hplace] at hsettled
  cases hsettled

/-- The ownerships are the same, if they can still be made. -/
theorem ownerships_addEntity (h : s.DeclaredOrUnmentioned e) {os : List Ownership}
    (hos : (ownerships (s.addEntity e) (.ofSchema (s.addEntity e))).result = .ok os) :
    (ownerships s (.ofSchema s)).result = .ok os := by
  obtain ⟨c, hc⟩ := ClassNames.exists_classes_addEntity s e
  have howned : (s.addEntity e).isOwned = s.isOwned := rfl
  rw [ownerships, named_addEntity hc, howned, List.filter_append, List.map_append,
    result_collect_append, bind_eq_ok_iff] at hos
  obtain ⟨as, has, hrest⟩ := hos
  obtain ⟨bs, hbs, hos⟩ := bind_eq_ok_iff.1 hrest
  obtain rfl : bs = [] := by
    refine List.eq_nil_iff_forall_not_mem.2 fun o ho => ?_
    obtain ⟨p, hp, hy⟩ := List.mem_map.1 (mem_collect hbs ho)
    obtain ⟨hp, hpowned⟩ := List.mem_filter.1 hp
    obtain rfl := List.mem_singleton.1 hp
    exact ownership_addEntity_refused h hc hpowned o hy
  obtain rfl : as ++ [] = os := by injection hos
  rw [List.append_nil, ownerships, ← has]
  simp only [ownership_addEntity h hc]

/-- **The mapping grows** by at most one entry in each section, if it can still be planned. -/
theorem mapping_addEntity (h : s.DeclaredOrUnmentioned e) {c : String}
    (hc : (ClassNames.ofSchema (s.addEntity e)).classes = (ClassNames.ofSchema s).classes ++ [c])
    {n : MappingPlan} (hn : (mapping (s.addEntity e)).result = .ok n) :
    ∃ m, (mapping s).result = .ok m ∧ Grown c m n := by
  obtain ⟨os, ks', hos, hks', rfl⟩ := mapping_eq_ok_iff.1 hn
  obtain ⟨ks, hks⟩ := exists_joinTableKeys s (.ofSchema s)
  refine ⟨_, mapping_eq_ok_iff.2 ⟨os, ks, ownerships_addEntity h hos, hks, rfl⟩, rfl,
    querySurfaces_addEntity hc, ?_, ?_, joinTableKeys_addEntity hc hks hks'⟩
  · rw [compositeKeys, compositeKeys, named_addEntity hc]
    exact extendedBy_map_filter _ _ _
  · rw [keylessClasses, keylessClasses, named_addEntity hc]
    exact extendedBy_map_filter _ _ _

/-! ## The effect of one more entity -/

/-- **One more entity does not disturb the others**, if its name was declared before or is no end of
a relationship.  Planning the classes fails as before.  Otherwise, if it still succeeds, the plans
are those from before and then that of the new class `c`; a mapping can be planned before and after,
with the same ownerships, and with at most one more entry, for `c`, at the end of each other
section. -/
theorem addEntity_undisturbed {s : Schema} {e : Entity} (h : s.DeclaredOrUnmentioned e) :
    (∀ u, entities s = .error u → entities (s.addEntity e) = .error u) ∧
    ∀ plans', entities (s.addEntity e) = .ok plans' →
      ∃ plans p c, (ClassNames.ofSchema (s.addEntity e)).classes =
          (ClassNames.ofSchema s).classes ++ [c] ∧
        entities s = .ok plans ∧ plans' = plans ++ [p] ∧ p.entity = e ∧ p.className = c ∧
        ∃ m n, (mapping s).result = .ok m ∧ (mapping (s.addEntity e)).result = .ok n ∧
          Grown c m n := by
  obtain ⟨c, hc⟩ := ClassNames.exists_classes_addEntity s e
  have hentities := entities_addEntity h hc
  constructor
  · intro u hu
    rw [hentities, hu]
    rfl
  · intro plans' hplans'
    obtain ⟨n, hn⟩ := exists_mapping hplans'
    obtain ⟨m, hm, hgrown⟩ := mapping_addEntity h hc hn
    rw [hentities] at hplans'
    obtain ⟨plans, hplans, hrest⟩ := bind_eq_ok_iff.1 hplans'
    obtain ⟨p, hp, hplans'⟩ := bind_eq_ok_iff.1 hrest
    obtain rfl : plans ++ [p] = plans' := by injection hplans'
    exact ⟨plans, p, c, hc, hplans, rfl, entity_of_eq_ok hp, className_of_eq_ok hp, m, n, hm, hn,
      hgrown⟩

/-- Members have a card each. -/
def library : Schema where
  entities := [⟨"MEMBER", [⟨"id", "int", true, false⟩]⟩,
    ⟨"CARD", [⟨"member_id", "int", true, true⟩]⟩]
  relationships := [⟨"MEMBER", "CARD", "||", "||", "shows"⟩]

/-- One more entity of that name, which is owned like the first. -/
def secondCard : Entity := ⟨"Card", [⟨"member_id", "int", true, true⟩]⟩

theorem addEntity_undisturbed_library : library.DeclaredOrUnmentioned secondCard ∧
    library.isOwned secondCard = true ∧
    ∃ plans p m n, entities library = .ok plans ∧
      entities (library.addEntity secondCard) = .ok (plans ++ [p]) ∧ p.className = "Card2" ∧
      (mapping library).result = .ok m ∧
      (mapping (library.addEntity secondCard)).result = .ok n ∧ Grown "Card2" m n := by
  have h : library.DeclaredOrUnmentioned secondCard := .inl (by decide +kernel)
  have hok : fault? (entities (library.addEntity secondCard)) = none := by decide +kernel
  obtain ⟨plans', hplans'⟩ := fault?_eq_none_iff.1 hok
  obtain ⟨plans, p, c, hc, hplans, rfl, -, hp, m, n, hm, hn, hgrown⟩ :=
    (addEntity_undisturbed h).2 plans' hplans'
  have hclasses : (ClassNames.ofSchema (library.addEntity secondCard)).classes =
      (ClassNames.ofSchema library).classes ++ ["Card2"] := by decide +kernel
  obtain rfl : c = "Card2" := by simpa [hc] using hclasses
  exact ⟨h, by decide +kernel, plans, p, m, n, hplans, hplans', hp, hm, hn, hgrown⟩

end Plan
end Entigram
