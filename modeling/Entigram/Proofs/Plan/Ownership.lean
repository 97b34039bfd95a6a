import Entigram.Proofs.Plan.Mapping
import Entigram.Proofs.Plan.Navigation

/-!
# Which owned entities get an ownership

An entity is owned because of a one-to-one relationship, its owner is found by its first
relationship of any kind, and the navigation that an ownership names is looked for in the owner's
plan.  That the three always meet is not plain from the definitions.

They do for the first entity with a name (`isSome_navigationTo?`): the relationship that gives the
owner leads from the owner to the name, which stands for the owned entity, so it is one of the
second group of the owner's plan.  They never do for a later entity with that name, because no
navigation leads to its class.

So an owned entity is *placed* when it is the first with its name and the first relationship into it
starts at a declared entity (`isPlaced`).  `ownerships_exact` says that exactly these have an
ownership, and that there is one warning for every other owned entity.
-/

set_option autoImplicit false

namespace Entigram

open Naming Attempt

namespace Plan

/-! ## The owner's navigation -/

/-- **An owner's plan leads to the owned class** exactly when the owned entity is the first with its
name. -/
theorem isSome_navigationTo? {s : Schema} {o e : Entity} {i : Nat} {c co : String}
    {r : Relationship} {p : EntityPlan} (hp : entity s (.ofSchema s) o co = .ok p)
    (he : s.entities[i]? = some e) (hc : (ClassNames.ofSchema s).classes[i]? = some c)
    (howned : s.isOwned e = true) (hr : s.firstInto? e.name = some r)
    (ho : sameName r.source o.name = true) :
    (p.navigationTo? c).isSome = (s.entityIndex? e.name == some i) := by
  rw [Schema.firstInto?_eq] at hr
  by_cases hi : s.entityIndex? e.name = some i
  · have hlead : (s.relationships.any fun r =>
        sameName r.source o.name && sameName r.target e.name) = true := by
      rw [List.any_eq_true]
      exact ⟨r, List.mem_of_find?_eq_some hr, by simp [ho, List.find?_some hr]⟩
    have hpos : 0 < p.navigations.countP (fun n => n.target == c && !n.isCollection) := by
      rw [countP_singles hp he hi hc, howned, hlead, Bool.and_self, Bool.toNat_true]
      omega
    obtain ⟨n, hn, hnc⟩ := List.countP_pos_iff.1 hpos
    rw [hi, beq_self_eq_true, EntityPlan.navigationTo?, List.find?_isSome]
    exact ⟨n, hn, by simpa using hnc⟩
  · rw [beq_false_of_ne hi, Option.isSome_eq_false_iff, Option.isNone_iff_eq_none,
      EntityPlan.navigationTo?, List.find?_eq_none]
    intro n hn hnc
    exact target_ne_class hp he hc hi hn (by simpa using (Bool.and_eq_true_iff.1 hnc).1)

/-! ## What becomes of an owned entity -/

/-- Is the entity at this position owned, the first with its name, and does the first relationship
into it start at a declared entity? -/
def isPlaced (s : Schema) (e : Entity) (i : Nat) : Bool :=
  s.isOwned e && s.entityIndex? e.name == some i &&
    (s.firstInto? e.name).any fun r => s.declares r.source

/-- Only an owned entity is placed. -/
theorem isOwned_and_isPlaced (s : Schema) (p : Entity × Nat) :
    (s.isOwned p.1 && isPlaced s p.1 p.2) = isPlaced s p.1 p.2 := by
  rw [isPlaced, ← Bool.and_assoc, ← Bool.and_assoc, Bool.and_self]

/-- The class of the first entity with the name from which the first relationship into `e`
starts. -/
def ownerClass? (s : Schema) (e : Entity) : Option String :=
  (s.firstInto? e.name).bind fun r => (ClassNames.ofSchema s).get? r.source

/-- What is said of an owned entity that is not placed: that nobody owns it, or that its owner does
not lead to it. -/
def refusal (s : Schema) (e : Entity) (i : Nat) : Report :=
  match ownerClass? s e, (ClassNames.ofSchema s).classes[i]? with
  | some owner, some owned => .noNavigation owner owned
  | _, _ => .noOwner e.name

/-- The owner's class is told by the owner's position. -/
theorem ownerClass?_eq (s : Schema) (e : Entity) :
    ownerClass? s e = (s.ownerIndex? e).bind fun i => (ClassNames.ofSchema s).classes[i]? := by
  rw [ownerClass?, Schema.ownerIndex?, Option.bind_assoc]
  simp only [ClassNames.get?_ofSchema]

theorem isSome_ownerIndex? (s : Schema) (e : Entity) :
    (s.ownerIndex? e).isSome = (s.firstInto? e.name).any fun r => s.declares r.source := by
  rw [Schema.ownerIndex?]
  cases s.firstInto? e.name with
  | none => rfl
  | some r => exact s.isSome_entityIndex? r.source

/-- **A placed entity has an ownership, and any other is refused.** -/
theorem ownership_settled {s : Schema} {e : Entity} {i : Nat} {c : String} {y : Ownership ⊕ Report}
    (he : s.entities[i]? = some e) (hc : (ClassNames.ofSchema s).classes[i]? = some c)
    (howned : s.isOwned e = true)
    (hy : ownership s (deferredPlans s (.ofSchema s)) e c = .ok y) :
    if isPlaced s e i then
      ∃ o, y = .inl o ∧ (some o.owner, some o.owned) = (ownerClass? s e, some c)
    else y = .inr (refusal s e i) := by
  rcases ownership_eq_ok_iff.1 hy with ⟨hnone, rfl⟩ | ⟨k, o, co, p, hk, ho, hco, hp, rfl⟩
  · have hdeclared := isSome_ownerIndex? s e
    have hclass := ownerClass?_eq s e
    rw [hnone] at hdeclared hclass
    rw [isPlaced, ← hdeclared, refusal, hclass]
    simp
  · obtain ⟨r, hr, hrk⟩ := ownerIndex?_eq_some_iff.1 hk
    obtain ⟨o', ho', hname⟩ := Schema.exists_of_entityIndex? hrk
    obtain rfl : o = o' := by simpa [ho] using ho'
    have hdeclared := isSome_ownerIndex? s e
    have hclass := ownerClass?_eq s e
    have hnav := isSome_navigationTo? hp he hc howned hr ((sameName_comm _ _).trans hname)
    rw [hk] at hdeclared hclass
    rw [isPlaced, ← hdeclared, howned, ← hnav, refusal, hclass, Option.bind_some, hco, hc]
    cases p.navigationTo? c <;> simp

/-! ## The whole section -/

/-- The entities with their classes, by position. -/
theorem named_eq_map (s : Schema) : named s (.ofSchema s) =
    s.entities.zipIdx.map fun p => (p.1, ((ClassNames.ofSchema s).classes[p.2]?).getD "") := by
  refine List.ext_getElem? fun i => ?_
  rw [List.getElem?_map, List.getElem?_zipIdx, Nat.zero_add]
  cases he : s.entities[i]? with
  | none => simp [named, List.zip, List.getElem?_eq_none_iff.1 he]
  | some e =>
    obtain ⟨c, hc⟩ := ClassNames.exists_class he
    rw [getElem?_named.2 ⟨he, hc⟩]
    simp [hc]

/-- **The ownerships section**: the placed entities have an ownership, the other owned ones a
warning. -/
theorem ownerships_split {s : Schema} {os : List Ownership}
    (h : (ownerships s (.ofSchema s)).result = .ok os) :
    os.map (fun o => (some o.owner, some o.owned)) =
        (s.entities.zipIdx.filter fun p => isPlaced s p.1 p.2).map
          (fun p => (ownerClass? s p.1, (ClassNames.ofSchema s).classes[p.2]?)) ∧
      (ownerships s (.ofSchema s)).reports =
        (s.entities.zipIdx.filter fun p => s.isOwned p.1 && !isPlaced s p.1 p.2).map
          (fun p => refusal s p.1 p.2) := by
  have hentries : ((named s (.ofSchema s)).filter fun p => s.isOwned p.1).map
      (fun p => ownership s (deferredPlans s (.ofSchema s)) p.1 p.2) =
        (s.entities.zipIdx.filter fun p => s.isOwned p.1).map fun p =>
          ownership s (deferredPlans s (.ofSchema s)) p.1
            (((ClassNames.ofSchema s).classes[p.2]?).getD "") := by
    rw [named_eq_map, List.filter_map, List.map_map]
    rfl
  have hsettled : ∀ p ∈ s.entities.zipIdx.filter fun p => s.isOwned p.1, ∀ y,
      ownership s (deferredPlans s (.ofSchema s)) p.1
        (((ClassNames.ofSchema s).classes[p.2]?).getD "") = .ok y →
      if isPlaced s p.1 p.2 then
        ∃ o, y = .inl o ∧ (some o.owner, some o.owned) =
          (ownerClass? s p.1, (ClassNames.ofSchema s).classes[p.2]?)
      else y = .inr (refusal s p.1 p.2) := by
    intro p hp y hy
    obtain ⟨hmem, howned⟩ := List.mem_filter.1 hp
    have he := List.mem_zipIdx_iff_getElem?.1 hmem
    obtain ⟨c, hc⟩ := ClassNames.exists_class he
    rw [hc, Option.getD_some] at hy
    rw [hc]
    exact ownership_settled he hc howned hy
  rw [ownerships, hentries] at h ⊢
  obtain ⟨hkept, hreports⟩ := collect_split h (fun p => isPlaced s p.1 p.2)
    (fun o => (some o.owner, some o.owned))
    (fun p => (ownerClass? s p.1, (ClassNames.ofSchema s).classes[p.2]?))
    (fun p => refusal s p.1 p.2)
    (fun p hp hk y hy => by simpa [hk] using hsettled p hp y hy)
    (fun p hp hk y hy => by simpa [hk] using hsettled p hp y hy)
  rw [List.filter_filter] at hkept hreports
  simp only [Bool.and_comm _ (s.isOwned _), isOwned_and_isPlaced] at hkept hreports
  exact ⟨hkept, hreports⟩

/-- The warnings among the records of planning a mapping. -/
def warnings (s : Schema) : List Log.Record :=
  ((mapping s).reports.map Report.record).filter fun r => r.level == .warning

/-- Only the ownerships warn. -/
theorem warnings_eq {s : Schema} {m : MappingPlan} (h : (mapping s).result = .ok m) :
    warnings s = (s.entities.zipIdx.filter fun p => s.isOwned p.1 && !isPlaced s p.1 p.2).map
      fun p => (refusal s p.1 p.2).record := by
  obtain ⟨os, ks, hos, -, -⟩ := mapping_eq_ok_iff.1 h
  rw [warnings, (filter_records h).1, (ownerships_split hos).2, List.map_map]
  rfl

/-- Every owned entity is placed or not. -/
theorem countP_isOwned (s : Schema) : s.entities.countP s.isOwned =
    (s.entities.zipIdx.filter fun p => isPlaced s p.1 p.2).length +
      (s.entities.zipIdx.filter fun p => s.isOwned p.1 && !isPlaced s p.1 p.2).length := by
  calc s.entities.countP s.isOwned
      = s.entities.zipIdx.countP fun p => s.isOwned p.1 := by
        conv_lhs => rw [← List.zipIdx_map_fst 0 s.entities, List.countP_map]
        rfl
    _ = _ := by
        rw [List.countP_eq_countP_filter_add _ _ fun p => isPlaced s p.1 p.2, List.countP_filter,
          List.countP_filter, funext (isOwned_and_isPlaced s), List.countP_eq_length_filter,
          List.countP_eq_length_filter]

/-- **Which ownerships there are.**  In the order of the schema there is one for every owned entity
that is the first with its name and for which the first relationship into that name starts at a
declared entity.  Its owner is the class of the first entity with the name of that origin, and its
owned class is the class of the entity.  For every other owned entity there is one warning. -/
theorem ownerships_exact {s : Schema} {m : MappingPlan} (h : (mapping s).result = .ok m) :
    m.ownerships.map (fun o => (some o.owner, some o.owned)) =
        (s.entities.zipIdx.filter fun p => isPlaced s p.1 p.2).map
          (fun p => (ownerClass? s p.1, (ClassNames.ofSchema s).classes[p.2]?)) ∧
      warnings s = (s.entities.zipIdx.filter fun p => s.isOwned p.1 && !isPlaced s p.1 p.2).map
        (fun p => (refusal s p.1 p.2).record) ∧
      s.entities.countP s.isOwned = m.ownerships.length + (warnings s).length := by
  obtain ⟨os, ks, hos, -, rfl⟩ := mapping_eq_ok_iff.1 h
  have hplaced := (ownerships_split hos).1
  have hrefused := warnings_eq h
  have hlength : os.length = (s.entities.zipIdx.filter fun p => isPlaced s p.1 p.2).length := by
    simpa using congrArg List.length hplaced
  refine ⟨hplaced, hrefused, ?_⟩
  rw [countP_isOwned, hrefused, List.length_map, hlength]

/-- A profile with an owner, a second one of the same name, and a badge that nobody declared
hands out. -/
def household : Schema where
  entities := [⟨"USER", [⟨"id", "int", true, false⟩]⟩,
    ⟨"PROFILE", [⟨"user_id", "int", true, true⟩]⟩, ⟨"Profile", [⟨"user_id", "int", true, true⟩]⟩,
    ⟨"BADGE", [⟨"guest_id", "int", true, true⟩]⟩]
  relationships := [⟨"user", "profile", "||", "o\x7b", "had"⟩,
    ⟨"USER", "PROFILE", "||", "||", "has"⟩, ⟨"GUEST", "BADGE", "||", "||", "wears"⟩]

theorem ownerships_exact_household : ∃ m, (mapping household).result = .ok m ∧
    m.ownerships.map (fun o => (some o.owner, some o.owned)) = [(some "User", some "Profile")] ∧
    (warnings household).map (·.message) =
      ["Owner User has no navigation to owned entity Profile2, skipping",
        "No owner found for owned entity BADGE, skipping"] ∧
    m.ownerships.length + (warnings household).length = 3 := by
  have hok : fault? (entities household) = none := by decide +kernel
  obtain ⟨plans, hplans⟩ := fault?_eq_none_iff.1 hok
  obtain ⟨m, h⟩ := exists_mapping hplans
  obtain ⟨hplaced, hrefused, hcount⟩ := ownerships_exact h
  refine ⟨m, h, hplaced.trans (by decide +kernel), ?_, ?_⟩
  · rw [hrefused]
    decide +kernel
  · rw [← hcount]
    decide +kernel

end Plan
end Entigram
