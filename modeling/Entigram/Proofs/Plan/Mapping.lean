import Entigram.Plan.Mapping
import Entigram.Proofs.Plan.Links

/-!
# What a mapping plan is made of

`collect` is the loop of every section that can skip an entry: it keeps what succeeds and reports
what does not.  `collect_split` says what it comes to when it is known which entries are kept, and
`mem_collect` where its results come from.

For the ownerships the entries are the owned entities (`ownership_eq_ok_iff`).  Only a plan that
cannot be made stops this section, and nothing stops the join tables, so a mapping can be planned
whenever the classes can (`exists_mapping`).
-/

set_option autoImplicit false

namespace Entigram

open Naming Attempt

namespace Plan

/-! ## Keeping and reporting -/

section collect

variable {α β γ : Type}

/-- What was kept was among the entries. -/
theorem mem_collect {xs : List (Except Failure (α ⊕ Report))} {as : List α}
    (h : (collect xs).result = .ok as) {a : α} (ha : a ∈ as) : .ok (.inl a) ∈ xs := by
  induction xs generalizing as with
  | nil =>
    obtain rfl : [] = as := by injection h
    cases ha
  | cons x xs ih =>
    match x with
    | .error f => cases h
    | .ok (.inl b) =>
      obtain ⟨bs, hbs, rfl⟩ := map_eq_ok_iff.1 h
      rcases List.mem_cons.1 ha with rfl | ha
      · exact List.mem_cons_self
      · exact List.mem_cons_of_mem _ (ih hbs ha)
    | .ok (.inr report) => exact List.mem_cons_of_mem _ (ih h ha)

/-- What was reported was among the entries. -/
theorem mem_reports {xs : List (Except Failure (α ⊕ Report))} {report : Report}
    (h : report ∈ (collect xs).reports) : .ok (.inr report) ∈ xs := by
  induction xs with
  | nil => cases h
  | cons x xs ih =>
    match x with
    | .error f => cases h
    | .ok (.inl b) => exact List.mem_cons_of_mem _ (ih h)
    | .ok (.inr report') =>
      rcases List.mem_cons.1 h with rfl | h
      · exact List.mem_cons_self
      · exact List.mem_cons_of_mem _ (ih h)

/-- Where nothing fails, keeping and reporting goes through. -/
theorem exists_collect {xs : List (Except Failure (α ⊕ Report))}
    (h : ∀ x ∈ xs, ∃ y, x = .ok y) : ∃ as, (collect xs).result = .ok as := by
  induction xs with
  | nil => exact ⟨[], rfl⟩
  | cons x xs ih =>
    obtain ⟨as, has⟩ := ih fun y hy => h y (List.mem_cons_of_mem _ hy)
    obtain ⟨y, rfl⟩ := h x List.mem_cons_self
    cases y with
    | inl a => exact ⟨a :: as, map_eq_ok_iff.2 ⟨as, has, rfl⟩⟩
    | inr report => exact ⟨as, has⟩

/-- Nothing is lost: there are as many results and reports as entries. -/
theorem length_collect {xs : List (Except Failure (α ⊕ Report))} {as : List α}
    (h : (collect xs).result = .ok as) :
    as.length + (collect xs).reports.length = xs.length := by
  induction xs generalizing as with
  | nil =>
    obtain rfl : [] = as := by injection h
    rfl
  | cons x xs ih =>
    match x with
    | .error f => cases h
    | .ok (.inl a) =>
      obtain ⟨bs, hbs, rfl⟩ := map_eq_ok_iff.1 h
      rw [List.length_cons, List.length_cons, ← ih hbs, Nat.add_right_comm]
      rfl
    | .ok (.inr report) =>
      rw [List.length_cons, ← ih h]
      rfl

/-- **Every entry is kept or reported**, in order.  `kept` says which, `entry` what is to be seen of
the kept ones and `refusal` what is said of the others. -/
theorem collect_split {xs : List β} {f : β → Except Failure (α ⊕ Report)} {as : List α}
    (h : (collect (xs.map f)).result = .ok as) (kept : β → Bool) (view : α → γ) (entry : β → γ)
    (refusal : β → Report)
    (hkept : ∀ x ∈ xs, kept x = true → ∀ y, f x = .ok y → ∃ a, y = .inl a ∧ view a = entry x)
    (hrefused : ∀ x ∈ xs, kept x = false → ∀ y, f x = .ok y → y = .inr (refusal x)) :
    as.map view = (xs.filter kept).map entry ∧
      (collect (xs.map f)).reports = (xs.filter fun x => !kept x).map refusal := by
  induction xs generalizing as with
  | nil =>
    obtain rfl : [] = as := by injection h
    exact ⟨rfl, rfl⟩
  | cons x xs ih =>
    have ih' := fun {bs} (hbs : (collect (xs.map f)).result = .ok bs) =>
      ih hbs (fun z hz => hkept z (List.mem_cons_of_mem _ hz))
        (fun z hz => hrefused z (List.mem_cons_of_mem _ hz))
    rw [List.map_cons] at h ⊢
    cases hx : f x with
    | error e => rw [hx] at h; cases h
    | ok y =>
      rw [hx] at h
      cases hk : kept x with
      | true =>
        obtain ⟨a, rfl, ha⟩ := hkept x List.mem_cons_self hk y hx
        obtain ⟨bs, hbs, rfl⟩ := map_eq_ok_iff.1 h
        obtain ⟨hentries, hreports⟩ := ih' hbs
        rw [List.filter_cons_of_pos hk, List.filter_cons_of_neg (by simp [hk])]
        exact ⟨by rw [List.map_cons, List.map_cons, ha, hentries], hreports⟩
      | false =>
        obtain rfl := hrefused x List.mem_cons_self hk y hx
        obtain ⟨hentries, hreports⟩ := ih' h
        rw [List.filter_cons_of_neg (by simp [hk]), List.filter_cons_of_pos (by simp [hk])]
        exact ⟨hentries, congrArg (refusal x :: ·) hreports⟩

end collect

/-! ## Ownerships -/

/-- An owner's position is that of the origin of the first relationship into the entity. -/
theorem ownerIndex?_eq_some_iff {s : Schema} {e : Entity} {i : Nat} :
    s.ownerIndex? e = some i ↔
      ∃ r, s.firstInto? e.name = some r ∧ s.entityIndex? r.source = some i :=
  Option.bind_eq_some_iff

/-- The plan that is deferred at a position is the one of the entity there. -/
theorem getElem?_deferredPlans {s : Schema} {i : Nat} {e : Entity} {c : String}
    (he : s.entities[i]? = some e) (hc : (ClassNames.ofSchema s).classes[i]? = some c) :
    ((deferredPlans s (.ofSchema s))[i]?).map Thunk.get = some (entity s (.ofSchema s) e c) := by
  rw [deferredPlans, List.getElem?_map, getElem?_named.2 ⟨he, hc⟩]
  rfl

/-- **What becomes of an owned entity**: it has no declared owner, or its owner's plan decides. -/
theorem ownership_eq_ok_iff {s : Schema} {e : Entity} {c : String} {y : Ownership ⊕ Report} :
    ownership s (deferredPlans s (.ofSchema s)) e c = .ok y ↔
      (s.ownerIndex? e = none ∧ y = .inr (.noOwner e.name)) ∨
      ∃ i o co p, s.ownerIndex? e = some i ∧ s.entities[i]? = some o ∧
        (ClassNames.ofSchema s).classes[i]? = some co ∧ entity s (.ofSchema s) o co = .ok p ∧
        y = match p.navigationTo? c with
          | some n => .inl { owner := co, owned := c, navigation := n.name }
          | none => .inr (.noNavigation co c) := by
  cases hi : s.ownerIndex? e with
  | none =>
    rw [ownership, hi]
    simp [eq_comm]
  | some i =>
    obtain ⟨r, -, hr⟩ := ownerIndex?_eq_some_iff.1 hi
    obtain ⟨o, ho, -⟩ := Schema.exists_of_entityIndex? hr
    obtain ⟨co, hco⟩ := ClassNames.exists_class ho
    obtain ⟨plan, hplan, hget⟩ := Option.map_eq_some_iff.1 (getElem?_deferredPlans ho hco)
    rw [ownership, hi]
    simp only [hplan, hget]
    cases hp : entity s (.ofSchema s) o co with
    | error u => simp [ho, hco, hp]
    | ok p =>
      simp only [className_of_eq_ok hp]
      cases hn : p.navigationTo? c <;> simp [ho, hco, hp, hn, eq_comm]

/-! ## The whole mapping -/

/-- **The five sections**, of which only the ownerships can fail. -/
theorem mapping_eq_ok_iff {s : Schema} {m : MappingPlan} :
    (mapping s).result = .ok m ↔ ∃ os ks, (ownerships s (.ofSchema s)).result = .ok os ∧
      (joinTableKeys s (.ofSchema s)).result = .ok ks ∧
      m = { querySurfaces := querySurfaces s (.ofSchema s), ownerships := os
            compositeKeys := compositeKeys s (.ofSchema s)
            keyless := keylessClasses s (.ofSchema s), joinTableKeys := ks } := by
  rw [mapping, mappingWith]
  cases (ownerships s (.ofSchema s)).result with
  | error f => simp
  | ok os => simp [map_eq_ok_iff, @eq_comm _ m]

/-- A mapping's reports are those of the ownerships, and then those of the join tables. -/
theorem reports_mapping {s : Schema} {m : MappingPlan} (h : (mapping s).result = .ok m) :
    (mapping s).reports =
      (ownerships s (.ofSchema s)).reports ++ (joinTableKeys s (.ofSchema s)).reports := by
  obtain ⟨os, ks, hos, -, -⟩ := mapping_eq_ok_iff.1 h
  rw [mapping, mappingWith, hos]

/-- Nothing stops the keys of the join tables. -/
theorem exists_joinTableKeys (s : Schema) (names : ClassNames) :
    ∃ ks, (joinTableKeys s names).result = .ok ks := by
  refine exists_collect fun x hx => ?_
  obtain ⟨p, -, rfl⟩ := List.mem_map.1 hx
  exact ⟨_, rfl⟩

/-- What is said of an owned entity is a warning. -/
theorem level_of_mem_ownerships {s : Schema} {report : Report}
    (h : report ∈ (ownerships s (.ofSchema s)).reports) : report.level = .warning := by
  obtain ⟨p, -, hp⟩ := List.mem_map.1 (mem_reports h)
  rcases ownership_eq_ok_iff.1 hp with ⟨-, hy⟩ | ⟨i, o, co, q, -, -, -, -, hy⟩
  · injection hy with hy
    rw [hy]
    rfl
  · split at hy
    · cases hy
    · injection hy with hy
      rw [hy]
      rfl

/-- What is said of a join table is a note. -/
theorem level_of_mem_joinTableKeys {s : Schema} {names : ClassNames} {report : Report}
    (h : report ∈ (joinTableKeys s names).reports) : report.level = .debug := by
  obtain ⟨p, -, hp⟩ := List.mem_map.1 (mem_reports h)
  injection hp with hp
  rw [joinTableKey] at hp
  split at hp
  · cases hp
  · injection hp with hp
    rw [← hp]
    rfl

/-- The two sections that report do so at levels of their own: the ownerships warn, and the join
tables leave notes. -/
theorem filter_records {s : Schema} {m : MappingPlan} (h : (mapping s).result = .ok m) :
    ((mapping s).reports.map Report.record).filter (fun r => r.level == .warning) =
        (ownerships s (.ofSchema s)).reports.map Report.record ∧
      ((mapping s).reports.map Report.record).filter (fun r => r.level == .debug) =
        (joinTableKeys s (.ofSchema s)).reports.map Report.record := by
  have hwarn : ∀ r ∈ (ownerships s (.ofSchema s)).reports.map Report.record,
      r.level = .warning := by
    intro r hr
    obtain ⟨report, hreport, rfl⟩ := List.mem_map.1 hr
    exact level_of_mem_ownerships hreport
  have hnote : ∀ r ∈ (joinTableKeys s (.ofSchema s)).reports.map Report.record,
      r.level = .debug := by
    intro r hr
    obtain ⟨report, hreport, rfl⟩ := List.mem_map.1 hr
    exact level_of_mem_joinTableKeys hreport
  rw [reports_mapping h, List.map_append, List.filter_append, List.filter_append]
  constructor
  · rw [List.filter_eq_self.2 fun r hr => by simp [hwarn r hr],
      List.filter_eq_nil_iff.2 fun r hr => by simp [hnote r hr], List.append_nil]
  · rw [List.filter_eq_nil_iff.2 fun r hr => by simp [hwarn r hr],
      List.filter_eq_self.2 fun r hr => by simp [hnote r hr], List.nil_append]

/-- **Where the classes can be planned, so can the mapping.** -/
theorem exists_mapping {s : Schema} {plans : List EntityPlan} (h : entities s = .ok plans) :
    ∃ m, (mapping s).result = .ok m := by
  have hos : ∃ os, (ownerships s (.ofSchema s)).result = .ok os := by
    refine exists_collect fun x hx => ?_
    obtain ⟨⟨e, c⟩, -, rfl⟩ := List.mem_map.1 hx
    cases hi : s.ownerIndex? e with
    | none => exact ⟨_, ownership_eq_ok_iff.2 (.inl ⟨hi, rfl⟩)⟩
    | some i =>
      obtain ⟨r, -, hr⟩ := ownerIndex?_eq_some_iff.1 hi
      obtain ⟨o, ho, -⟩ := Schema.exists_of_entityIndex? hr
      obtain ⟨co, hco⟩ := ClassNames.exists_class ho
      obtain ⟨p, -, hp⟩ := exists_plan h ho hco
      exact ⟨_, ownership_eq_ok_iff.2 (.inr ⟨i, o, co, p, hi, ho, hco, hp, rfl⟩)⟩
  obtain ⟨os, hos⟩ := hos
  obtain ⟨ks, hks⟩ := exists_joinTableKeys s (.ofSchema s)
  exact ⟨_, mapping_eq_ok_iff.2 ⟨os, ks, hos, hks, rfl⟩⟩

/-- Where no plan of a class fails, classes and mapping are planned. -/
theorem exists_plans {s : Schema} (h : fault? (entities s) = none) :
    ∃ plans m, entities s = .ok plans ∧ (mapping s).result = .ok m := by
  obtain ⟨plans, hplans⟩ := fault?_eq_none_iff.1 h
  obtain ⟨m, hm⟩ := exists_mapping hplans
  exact ⟨plans, m, hplans, hm⟩

end Plan
end Entigram
