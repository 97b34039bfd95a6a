import Mathlib.Data.Finmap
import Entigram.Proofs.Naming.Resolution

/-!
# Two ways to look a name up

A name of a diagram is looked up in the schema, by going through the entities, and among the class
names, by its folded form in a dictionary.  The dictionary is filled in the order of the entities,
and a name that has an entry keeps it (`setDefault`), so a name that is declared several times leads
to the class that was entered first.  This is what `ClassNames.get?` answers (`lookup_byName`).

So both lookups come to the first entity with the name, one to the entity and the other one to its
class (`lookups_agree`).  As the classes of a schema are distinct, a class tells its name up to
case.
-/

set_option autoImplicit false

namespace Entigram
namespace Naming

open Text

/-! ## The dictionary -/

/-- Enters a value under a key that has none; a key that has a value keeps it. -/
def setDefault (d : Finmap fun _ : String => String) (key value : String) :
    Finmap fun _ : String => String :=
  if key ∈ d then d else d.insert key value

theorem lookup_setDefault (d : Finmap fun _ : String => String) (key value k : String) :
    (setDefault d key value).lookup k = (d.lookup k).or (if k = key then some value else none) := by
  rw [setDefault]
  by_cases hk : k = key
  · subst hk
    rw [if_pos rfl]
    split
    · next hmem =>
      obtain ⟨v, hv⟩ := Finmap.mem_iff.1 hmem
      rw [hv, Option.or_some]
      rfl
    · next hmem => rw [Finmap.lookup_insert, Finmap.lookup_eq_none.2 hmem, Option.none_or]
  · rw [if_neg hk, Option.or_none]
    split
    · rfl
    · rw [Finmap.lookup_insert_of_ne _ hk]

/-- Of the entries under one key the first is found, unless the key had a value before. -/
theorem lookup_foldl_setDefault (entries : List (String × String))
    (d : Finmap fun _ : String => String) (name : String) :
    (entries.foldl (fun d p => setDefault d (fold p.1) p.2) d).lookup (fold name) =
      (d.lookup (fold name)).or ((entries.find? fun p => sameName p.1 name).map (·.2)) := by
  induction entries generalizing d with
  | nil => simp
  | cons p entries ih =>
    rw [List.foldl_cons, ih, lookup_setDefault, Option.or_assoc, List.find?_cons]
    refine congrArg (Option.or _) ?_
    cases hp : sameName p.1 name with
    | true => rw [if_pos (sameName_iff.1 hp).symm]; rfl
    | false =>
      rw [if_neg fun heq => by simp [sameName_iff.2 heq.symm] at hp, Option.none_or]

namespace ClassNames

/-- The classes by the folded names that lead to them. -/
def byName (c : ClassNames) : Finmap fun _ : String => String :=
  (c.names.zip c.classes).foldl (fun d p => setDefault d (fold p.1) p.2) ∅

/-- **The class of a name is what the dictionary has under it.** -/
theorem lookup_byName (c : ClassNames) (name : String) :
    c.byName.lookup (fold name) = c.get? name := by
  rw [byName, lookup_foldl_setDefault, Finmap.lookup_empty, Option.none_or, get?_eq]

/-! ## Both lookups -/

/-- Entities with the name stand nowhere before its position. -/
theorem sameName_eq_false_of_lt {s : Schema} {name : String} {i j : Nat} {e : Entity}
    (hi : s.entityIndex? name = some i) (hlt : j < i) (he : s.entities[j]? = some e) :
    sameName e.name name = false := by
  rw [Schema.entityIndex?_eq, List.findIdx?_eq_some_iff_getElem] at hi
  obtain ⟨_, _, hbefore⟩ := hi
  obtain ⟨hj, rfl⟩ := List.getElem?_eq_some_iff.1 he
  simpa using hbefore j hlt

/-- A name has the class of a declared one just if it is a spelling of it. -/
theorem get?_eq_get?_iff {s : Schema} {name other : String} (hother : s.declares other = true) :
    (ofSchema s).get? name = (ofSchema s).get? other ↔ sameName name other = true := by
  rw [← Schema.isSome_entityIndex?] at hother
  obtain ⟨j, hj⟩ := Option.isSome_iff_exists.1 hother
  obtain ⟨e, he, -⟩ := Schema.exists_of_entityIndex? hj
  obtain ⟨c, hc⟩ := exists_class he
  rw [← get?_eq_class_iff hj hc, get?_ofSchema s other, hj, Option.bind_some, hc]

/-- **A name stands for the same entity in the schema and among the class names**, for every schema
and every name.  If it is declared, its class is the one at the position of the entity that the
schema has for it, and this is the first with the name; and the dictionary has it under the folded
name.  Exactly if it is not declared, there is no class for it, and resolving it fails with the name
and the relationship that mentions it.  It has the class of a declared name exactly if it is the
same up to case. -/
theorem lookups_agree (s : Schema) (name : String) (r : Option Relationship) :
    (∀ e, s.entity? name = some e → ∃ (i : Nat) (c : String),
      s.entities[i]? = some e ∧ sameName e.name name = true ∧
      (∀ j e', j < i → s.entities[j]? = some e' → sameName e'.name name = false) ∧
      (ofSchema s).classes[i]? = some c ∧ (ofSchema s).get? name = some c ∧
      (ofSchema s).resolve name r = .ok c) ∧
    (ofSchema s).byName.lookup (fold name) = (ofSchema s).get? name ∧
    ((ofSchema s).get? name = none ↔ s.entity? name = none) ∧
    ((ofSchema s).resolve name r = .error { name, relationship := r } ↔ s.entity? name = none) ∧
    ∀ other, s.declares other = true →
      ((ofSchema s).get? name = (ofSchema s).get? other ↔ sameName name other = true) := by
  have hdeclares : s.entity? name = none ↔ s.declares name = false := by
    rw [← s.isSome_entity?, Option.isSome_eq_false_iff, Option.isNone_iff_eq_none]
  refine ⟨fun e he => ?_, lookup_byName _ name, ?_, ?_, fun other => get?_eq_get?_iff⟩
  · rw [Schema.entity?_eq_bind, Option.bind_eq_some_iff] at he
    obtain ⟨i, hi, he⟩ := he
    obtain ⟨c, hc⟩ := exists_class he
    obtain ⟨e', he', hname⟩ := Schema.exists_of_entityIndex? hi
    obtain rfl : e = e' := by simpa [he] using he'
    have hget : (ofSchema s).get? name = some c := by
      rw [get?_ofSchema, hi, Option.bind_some, hc]
    exact ⟨i, c, he, hname, fun j e' hlt he' => sameName_eq_false_of_lt hi hlt he', hc, hget,
      resolve_eq_ok_iff.2 hget⟩
  · rw [hdeclares, get?_eq_none_iff]
  · rw [← Attempt.fault?_eq_some_iff, fault?_resolve, hdeclares]
    cases s.declares name <;> simp

/-- Orders in two spellings, the second with a column. -/
def orders : Schema where
  entities := [⟨"ITEM", []⟩, ⟨"Order", []⟩, ⟨"ORDER", [⟨"id", "int", true, false⟩]⟩]

theorem lookups_agree_orders : orders.entity? "ORDER" = some ⟨"Order", []⟩ ∧
    (ofSchema orders).resolve "ORDER" = .ok "Order" ∧
    orders.entity? "ORDERS" = none ∧ (ofSchema orders).resolve "ORDERS" = .error ⟨"ORDERS", none⟩ ∧
    orders.declares "item" = true ∧
    (ofSchema orders).get? "ORDER" ≠ (ofSchema orders).get? "item" := by
  have hfound : orders.entity? "ORDER" = some ⟨"Order", []⟩ := by decide +kernel
  have hmissing : orders.entity? "ORDERS" = none := by decide +kernel
  have hitem : orders.declares "item" = true := by decide +kernel
  obtain ⟨hclass, -, -, -, hother⟩ := lookups_agree orders "ORDER" none
  obtain ⟨i, c, -, -, -, hc, hget, hresolve⟩ := hclass _ hfound
  have hname : (ofSchema orders).get? "ORDER" = some "Order" := by decide +kernel
  obtain rfl : c = "Order" := Option.some_inj.1 (hget.symm.trans hname)
  obtain ⟨-, -, -, hfails, -⟩ := lookups_agree orders "ORDERS" none
  refine ⟨hfound, hresolve, hmissing, hfails.2 hmissing, hitem, fun heq => ?_⟩
  exact absurd ((hother "item" hitem).1 heq) (by decide +kernel)

end ClassNames
end Naming
end Entigram
