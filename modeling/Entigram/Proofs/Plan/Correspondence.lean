import Entigram.Generation
import Entigram.Proofs.Classification
import Entigram.Proofs.Plan.Mapping

/-!
# Schemas that are planned alike

Planning does not look at a relationship as it is written.  It asks which entities are owned, who
owns them, and which relationships give an entity its navigations, and of these it only takes the
class that the far end stands for.  `Corresponds R s t` says that two schemas answer these questions
alike, where `R` relates the relationships that stand for each other.

It follows that the two are planned alike: the plans are the same, or planning fails for both, at
relationships that `R` relates (`Corresponds.entities_agree`, `Corresponds.mapping_agree`), and so
are the sources (`Corresponds.sources_agree`).  If `R` is equality, the outcomes are equal.

The steps are compared one by one, under assumptions about that step only: links by their
relationships (`links_agree`), an ownership by the owner's plan (`ownership_agree`), and a loop that
keeps and reports by its entries (`collect_agree`).
-/

set_option autoImplicit false

namespace Entigram

open Naming Attempt

/-! ## What the entities decide -/

namespace Schema

/-- What does not look at the relationships. -/
theorem eq_of_entities {α : Type} {s t : Schema} (h : s.entities = t.entities) (f : Schema → α)
    (hf : ∀ es rs rs', f ⟨es, rs⟩ = f ⟨es, rs'⟩) : f s = f t := by
  obtain ⟨es, rs⟩ := s
  obtain ⟨es', rs'⟩ := t
  obtain rfl : es = es' := h
  exact hf es rs rs'

theorem ofSchema_congr {s t : Schema} (h : s.entities = t.entities) :
    ClassNames.ofSchema s = ClassNames.ofSchema t :=
  eq_of_entities h ClassNames.ofSchema fun _ _ _ => rfl

theorem entity?_congr {s t : Schema} (h : s.entities = t.entities) : s.entity? = t.entity? :=
  eq_of_entities h entity? fun _ _ _ => rfl

theorem named_congr {s t : Schema} (h : s.entities = t.entities) : Plan.named s = Plan.named t :=
  eq_of_entities h Plan.named fun _ _ _ => rfl

end Schema

/-- What a group admits is told by the entities and by which of them are owned. -/
theorem Plan.Group.admits_congr {s t : Schema} (hentities : s.entities = t.entities)
    (howned : s.isOwned = t.isOwned) (e : Entity) (g : Group) :
    g.admits s e = g.admits t e := by
  funext r
  cases g <;> simp only [admits, Schema.entity?_congr hentities, howned]

/-- Relationships with the same ends, up to the case of names, and the same cardinalities. -/
structure Relationship.Alike (r r' : Relationship) : Prop where
  source : sameName r.source r'.source = true
  target : sameName r.target r'.target = true
  sourceCardinality : r.sourceCardinality = r'.sourceCardinality
  targetCardinality : r.targetCardinality = r'.targetCardinality

namespace Relationship.Alike

variable {r r' : Relationship}

protected theorem refl (r : Relationship) : r.Alike r :=
  ⟨sameName_refl _, sameName_refl _, rfl, rfl⟩

theorem isOneToOne_eq (h : r.Alike r') : r.isOneToOne = r'.isOneToOne := by
  rw [isOneToOne, isOneToOne, h.sourceCardinality, h.targetCardinality]

theorem farEnd (h : r.Alike r') (g : Plan.Group) : sameName (g.farEnd r) (g.farEnd r') = true := by
  cases g
  case outgoingMany | outgoingOwned => exact h.target
  case incomingOne | incomingOptional => exact h.source

theorem nearEnd (h : r.Alike r') (g : Plan.Group) :
    sameName (g.nearEnd r) (g.nearEnd r') = true := by
  cases g
  case outgoingMany | outgoingOwned => exact h.source
  case incomingOne | incomingOptional => exact h.target

/-- A group counts both relationships or neither. -/
theorem counts_eq (h : r.Alike r') (s : Schema) (e : Entity) (g : Plan.Group) :
    (sameName (g.nearEnd r) e.name && g.admits s e r) =
      (sameName (g.nearEnd r') e.name && g.admits s e r') := by
  have hentity : s.entity? r.target = s.entity? r'.target := by
    rw [Schema.entity?, Schema.entity?, sameName_iff.1 h.target]
  have hadmits : g.admits s e r = g.admits s e r' := by
    cases g <;> simp only [Plan.Group.admits, hentity, h.targetCardinality]
  rw [sameName_congr (h.nearEnd g), hadmits]

end Relationship.Alike

namespace Plan

/-! ## Faults -/

/-- What planning fails with when a relationship leads this group of navigations nowhere. -/
def Group.lost (g : Group) (r : Relationship) : UnresolvedReference where
  name := g.farEnd r
  relationship := some r

/-- Both references are lost in the same group, at relationships that `R` relates. -/
inductive LostAlike (R : Relationship → Relationship → Prop) :
    UnresolvedReference → UnresolvedReference → Prop
  | lost (g : Group) {r r' : Relationship} (h : R r r') : LostAlike R (g.lost r) (g.lost r')

theorem eq_of_lostAlike {u u' : UnresolvedReference} (h : LostAlike Eq u u') : u = u' := by
  obtain ⟨g, rfl⟩ := h
  rfl

/-- Failures for the same reason, with related references. -/
inductive Failure.Rel (F : UnresolvedReference → UnresolvedReference → Prop) :
    Failure → Failure → Prop
  | unresolved {u u' : UnresolvedReference} (h : F u u') : Rel F (.unresolved u) (.unresolved u')
  | unnamed (i : Nat) : Rel F (.unnamed i) (.unnamed i)

theorem Failure.eq_of_rel {F : UnresolvedReference → UnresolvedReference → Prop}
    (hF : ∀ u u', F u u' → u = u') {f f' : Failure} (h : Failure.Rel F f f') : f = f' := by
  cases h with
  | unresolved h => rw [hF _ _ h]
  | unnamed i => rfl

/-! ## The plan of a class -/

section entity

variable {F : UnresolvedReference → UnresolvedReference → Prop}
  {R : Relationship → Relationship → Prop} {s t : Schema} {names names' : ClassNames} {e : Entity}

/-- **Links agree where their relationships do**, if related far ends are resolved alike. -/
theorem links_agree
    (hrel : ∀ g : Group, List.Forall₂ R (g.relationships s e) (g.relationships t e))
    (hresolve : ∀ (g : Group) (r r' : Relationship), R r r' →
      Agree F (names.resolve (g.farEnd r) (some r)) (names'.resolve (g.farEnd r') (some r'))) :
    Agree F (links s names e) (links t names' e) := by
  have horigins : List.Forall₂ (fun p q : Group × Relationship => p.1 = q.1 ∧ R p.2 q.2)
      (origins s e) (origins t e) := by
    refine List.rel_flatMap (List.forall₂_same.2 fun _ _ => rfl) fun g g' (hg : g = g') => ?_
    subst hg
    exact List.rel_map (fun _ _ hr => ⟨rfl, hr⟩) (hrel g)
  rw [links_eq, links_eq]
  refine Agree.mapM (horigins.imp ?_)
  rintro ⟨g, r⟩ ⟨-, r'⟩ ⟨rfl, hr⟩
  exact (hresolve g r r' hr).bind fun c => .ok _

/-- The plan of a class agrees where kind and links do. -/
theorem entity_agree (hkind : s.kind e = t.kind e)
    (hlinks : Agree F (links s names e) (links t names' e)) (c : String) :
    Agree F (entity s names e c) (entity t names' e c) := by
  rw [entity, entity, hkind]
  exact hlinks.bind fun ls => .ok _

end entity

/-- Spellings of one name are resolved alike. -/
theorem resolve_agree (names : ClassNames) {R : Relationship → Relationship → Prop}
    (hR : ∀ r r', R r r' → r.Alike r') (g : Group) {r r' : Relationship} (h : R r r') :
    Agree (LostAlike R) (names.resolve (g.farEnd r) (some r))
      (names.resolve (g.farEnd r') (some r')) := by
  have hname := sameName_iff.1 ((hR r r' h).farEnd g)
  rw [ClassNames.resolve, ClassNames.resolve, ClassNames.get?, ClassNames.get?, hname]
  split
  · exact .ok _
  · exact .error (.lost g h)

/-! ## The sections of a mapping -/

section sections

variable {F : UnresolvedReference → UnresolvedReference → Prop} {s t : Schema}

/-- An ownership agrees where the owner's position and the plan there do. -/
theorem ownership_agree {e : Entity}
    {plans plans' : List (Thunk (Except UnresolvedReference EntityPlan))}
    (howner : s.ownerIndex? e = t.ownerIndex? e)
    (hplans : ∀ i, s.ownerIndex? e = some i →
      Option.Rel (fun p q => Agree F p.get q.get) plans[i]? plans'[i]?) (c : String) :
    Agree (Failure.Rel F) (ownership s plans e c) (ownership t plans' e c) := by
  rw [ownership, ownership, ← howner]
  cases hi : s.ownerIndex? e with
  | none => exact .ok _
  | some i =>
    have hplan := hplans i hi
    dsimp only
    generalize plans[i]? = p, plans'[i]? = p' at hplan ⊢
    cases hplan with
    | none => exact .error (Failure.Rel.unnamed i)
    | @some p p' hplan =>
      dsimp only
      generalize p.get = x, p'.get = x' at hplan ⊢
      cases hplan with
      | error hu => exact .error (Failure.Rel.unresolved hu)
      | ok owner =>
        dsimp only
        cases owner.navigationTo? c <;> exact .ok _

/-- A result with its reports, up to what it fails with. -/
structure Reported.Agree {α : Type} (G : Failure → Failure → Prop) (x y : Reported α) : Prop where
  reports : x.reports = y.reports
  result : Attempt.Agree G x.result y.result

theorem Reported.Agree.eq {α : Type} {G : Failure → Failure → Prop} {x y : Reported α}
    (h : x.Agree G y) (hG : ∀ f f', G f f' → f = f') : x = y := by
  obtain ⟨reports, result⟩ := x
  obtain rfl : reports = y.reports := h.reports
  obtain rfl : result = y.result := h.result.eq hG
  rfl

/-- Keeping and reporting agree where the entries do. -/
theorem collect_agree {α : Type} {G : Failure → Failure → Prop}
    {xs ys : List (Except Failure (α ⊕ Report))} (h : List.Forall₂ (Attempt.Agree G) xs ys) :
    (collect xs).Agree G (collect ys) := by
  induction h with
  | nil => exact ⟨rfl, .ok []⟩
  | cons hxy _ ih =>
    cases hxy with
    | error hf => exact ⟨rfl, .error hf⟩
    | ok y =>
      cases y with
      | inl a => exact ⟨ih.reports, ih.result.map (a :: ·)⟩
      | inr report => exact ⟨congrArg (report :: ·) ih.reports, ih.result⟩

/-- The sections that cannot fail are told by the entities and by which of them are owned. -/
theorem sections_congr (hentities : s.entities = t.entities) (howned : s.isOwned = t.isOwned) :
    querySurfaces s (.ofSchema s) = querySurfaces t (.ofSchema t) ∧
      compositeKeys s (.ofSchema s) = compositeKeys t (.ofSchema t) ∧
      keylessClasses s (.ofSchema s) = keylessClasses t (.ofSchema t) ∧
      joinTableKeys s (.ofSchema s) = joinTableKeys t (.ofSchema t) := by
  have hnamed := Schema.named_congr hentities
  have hnames := Schema.ofSchema_congr hentities
  have hcomposite : s.needsCompositeKey = t.needsCompositeKey := by
    funext e
    rw [Schema.needsCompositeKey, Schema.needsCompositeKey, howned]
  have hkeyless : s.isKeyless = t.isKeyless := by
    funext e
    rw [Schema.isKeyless, Schema.isKeyless, howned]
  refine ⟨?_, ?_, ?_, ?_⟩
  · rw [querySurfaces, querySurfaces, hnamed, hnames, howned]
  · rw [compositeKeys, compositeKeys, hnamed, hnames, hcomposite]
  · rw [keylessClasses, keylessClasses, hnamed, hnames, hkeyless]
  · rw [joinTableKeys, joinTableKeys, hnamed, hnames]

end sections

/-! ## Schemas that correspond -/

/-- The two schemas answer the questions of planning alike, where `R` relates the relationships that
stand for each other. -/
structure Corresponds (R : Relationship → Relationship → Prop) (s t : Schema) : Prop where
  entities : s.entities = t.entities
  isOwned : s.isOwned = t.isOwned
  ownerIndex? : s.ownerIndex? = t.ownerIndex?
  relationships : ∀ (e : Entity) (g : Group),
    List.Forall₂ R (g.relationships s e) (g.relationships t e)

namespace Corresponds

variable {R : Relationship → Relationship → Prop} {s t : Schema}

theorem kind_eq (h : Corresponds R s t) : s.kind = t.kind := Schema.kind_congr h.isOwned

theorem owner?_eq (h : Corresponds R s t) : s.owner? = t.owner? := by
  funext e
  rw [Schema.owner?_eq_bind, Schema.owner?_eq_bind, h.ownerIndex?, h.entities]

/-- The plans of each class agree. -/
theorem entity_agree (h : Corresponds R s t) (hR : ∀ r r', R r r' → r.Alike r') (e : Entity)
    (c : String) : Attempt.Agree (LostAlike R) (entity s (.ofSchema s) e c)
      (entity t (.ofSchema t) e c) := by
  rw [← Schema.ofSchema_congr h.entities]
  exact Plan.entity_agree (congrFun h.kind_eq e)
    (links_agree (h.relationships e) fun g _ _ hr => resolve_agree _ hR g hr) c

/-- **The plans of all classes agree.** -/
theorem entities_agree (h : Corresponds R s t) (hR : ∀ r r', R r r' → r.Alike r') :
    Attempt.Agree (LostAlike R) (Plan.entities s) (Plan.entities t) := by
  rw [Plan.entities, Plan.entities, entitiesWith, entitiesWith, ← Schema.named_congr h.entities,
    ← Schema.ofSchema_congr h.entities]
  refine Agree.mapM (List.forall₂_same.2 fun x _ => ?_)
  have hx := h.entity_agree hR x.1 x.2
  rwa [← Schema.ofSchema_congr h.entities] at hx

/-- The ownerships agree. -/
theorem ownerships_agree (h : Corresponds R s t) (hR : ∀ r r', R r r' → r.Alike r') :
    (ownerships s (.ofSchema s)).Agree (Failure.Rel (LostAlike R))
      (ownerships t (.ofSchema t)) := by
  have hnamed : named t (.ofSchema t) = named s (.ofSchema s) := by
    rw [Schema.named_congr h.entities, Schema.ofSchema_congr h.entities]
  rw [ownerships, ownerships, hnamed, ← h.isOwned]
  refine collect_agree (List.rel_map (fun x y (hxy : x = y) => ?_)
    (List.forall₂_same.2 fun _ _ => rfl))
  subst hxy
  refine ownership_agree (congrFun h.ownerIndex? x.1) (fun i _ => ?_) x.2
  rw [deferredPlans, deferredPlans, hnamed, List.getElem?_map, List.getElem?_map]
  cases (named s (.ofSchema s))[i]? with
  | none => exact .none
  | some y => exact .some (h.entity_agree hR y.1 y.2)

/-- **The mappings agree.** -/
theorem mapping_agree (h : Corresponds R s t) (hR : ∀ r r', R r r' → r.Alike r') :
    (mapping s).Agree (Failure.Rel (LostAlike R)) (mapping t) := by
  obtain ⟨hsurfaces, hcomposite, hkeyless, hjoins⟩ := sections_congr h.entities h.isOwned
  obtain ⟨hreports, hresult⟩ := h.ownerships_agree hR
  rw [mapping, mapping, mappingWith, mappingWith, hsurfaces, hcomposite, hkeyless, hjoins, hreports]
  generalize (ownerships s (.ofSchema s)).result = x,
    (ownerships t (.ofSchema t)).result = y at hresult ⊢
  cases hresult with
  | error hf => exact ⟨rfl, .error hf⟩
  | ok os =>
    obtain ⟨ks, hks⟩ := exists_joinTableKeys t (.ofSchema t)
    dsimp only
    rw [hks]
    exact ⟨rfl, .ok _⟩

end Corresponds

end Plan

/-! ## Sources -/

/-- A result with its records, up to what it fails with. -/
structure Logged.Agree {α : Type} (G : Plan.Failure → Plan.Failure → Prop) (x y : Logged α) :
    Prop where
  log : x.log = y.log
  result : Attempt.Agree G x.result y.result

theorem Logged.Agree.eq {α : Type} {G : Plan.Failure → Plan.Failure → Prop} {x y : Logged α}
    (h : x.Agree G y) (hG : ∀ f f', G f f' → f = f') : x = y := by
  obtain ⟨log, result⟩ := x
  obtain rfl : log = y.log := h.log
  obtain rfl : result = y.result := h.result.eq hG
  rfl

namespace Generation

/-- A source agrees where its text does. -/
theorem source_agree {G : Plan.Failure → Plan.Failure → Prop} {s t : Schema}
    (hentities : s.entities = t.entities) {text text' : Except Plan.Failure String}
    (htext : Attempt.Agree G text text') (operation name elapsed : String)
    (reports : List Plan.Report) :
    (source operation name elapsed s reports text).Agree G
      (source operation name elapsed t reports text') := by
  have hlength := congrArg List.length hentities
  cases htext with
  | ok text => exact ⟨by simp only [source, hlength], .ok text⟩
  | error hf => exact ⟨by simp only [source, hlength], .error hf⟩

end Generation

/-- **The sources agree**: the same text and records, or a failure for the same reason. -/
theorem Plan.Corresponds.sources_agree {R : Relationship → Relationship → Prop} {s t : Schema}
    (h : Corresponds R s t) (hR : ∀ r r', R r r' → r.Alike r') (style : CSharp.Style)
    (elapsed : String) :
    (Generation.entities style elapsed s).Agree (Failure.Rel (LostAlike R))
        (Generation.entities style elapsed t) ∧
      (Generation.mapping style elapsed s).Agree (Failure.Rel (LostAlike R))
        (Generation.mapping style elapsed t) := by
  obtain ⟨hreports, hresult⟩ := h.mapping_agree hR
  constructor
  · refine Generation.source_agree h.entities ?_ _ _ _ _
    exact ((h.entities_agree hR).map _).mapError fun _ _ hu => Failure.Rel.unresolved hu
  · rw [Generation.mapping, Generation.mapping, hreports]
    exact Generation.source_agree h.entities (hresult.map _) _ _ _ _

/-- Schemas that take the very same relationships have equal plans and equal sources. -/
theorem Plan.Corresponds.outcomes_eq {s t : Schema} (h : Corresponds Eq s t) :
    Plan.entities s = Plan.entities t ∧ mapping s = mapping t ∧
    ∀ (style : CSharp.Style) (elapsed : String),
      Generation.entities style elapsed s = Generation.entities style elapsed t ∧
        Generation.mapping style elapsed s = Generation.mapping style elapsed t := by
  have hR : ∀ r r' : Relationship, r = r' → r.Alike r' := by
    rintro r _ rfl
    exact .refl r
  have hfailure : ∀ f f', Failure.Rel (LostAlike Eq) f f' → f = f' :=
    fun _ _ => Failure.eq_of_rel fun _ _ => eq_of_lostAlike
  refine ⟨(h.entities_agree hR).eq fun _ _ => eq_of_lostAlike,
    (h.mapping_agree hR).eq hfailure, fun style elapsed => ?_⟩
  obtain ⟨hentities, hmapping⟩ := h.sources_agree hR style elapsed
  exact ⟨hentities.eq hfailure, hmapping.eq hfailure⟩

end Entigram
