import Entigram.Proofs.Naming.Fresh

/-!
# What wanted names become

That claimed names are fresh says what they are not.  This file says what they are.  Of a list of
claims every name is settled by its wanted name and the names before it: the wanted name stays if it
is free, and otherwise it gets the smallest free number from two on (`Becomes`).  The search for the
number does not come into it, as it finds what is asked for (`freeName_eq_iff`), and neither do the
names that are claimed later (`getElem?_claimAll_eq_some_iff`).

So a name that a scope must not have can be traced back: it is there just if a wanted name becomes
it, and no wanted name does that does not begin with it (`mem_claimAll_iff`,
`not_mem_claimAll`).
-/

set_option autoImplicit false

namespace Entigram
namespace Naming

open Text UsedNames

/-- Does a list have a name in some spelling? -/
def Occurs (names : List String) (name : String) : Prop := ∃ n ∈ names, sameName n name = true

/-- The names that a wanted name may become: itself, and itself with a number from two on. -/
def IsForm (wanted name : String) : Prop := name = wanted ∨ ∃ k, 2 ≤ k ∧ name = numbered wanted k

/-- What a wanted name becomes where some names are taken: it stays if it is free, and otherwise it
gets the smallest free number from two on. -/
inductive Becomes (taken : String → Prop) (wanted : String) : String → Prop
  | kept (free : ¬taken wanted) : Becomes taken wanted wanted
  | counted (k : Nat) (clash : taken wanted) (two : 2 ≤ k)
      (smaller : ∀ j, 2 ≤ j → j < k → taken (numbered wanted j))
      (free : ¬taken (numbered wanted k)) : Becomes taken wanted (numbered wanted k)

namespace Becomes

variable {taken taken' : String → Prop} {wanted name : String}

/-- A name that a wanted one becomes is one of its forms. -/
theorem isForm (h : Becomes taken wanted name) : IsForm wanted name := by
  cases h with
  | kept free => exact .inl rfl
  | counted k clash two smaller free => exact .inr ⟨k, two, rfl⟩

theorem of_forms (htaken : ∀ x, IsForm wanted x → (taken x ↔ taken' x))
    (h : Becomes taken wanted name) : Becomes taken' wanted name := by
  have hnumbered : ∀ k, 2 ≤ k → (taken (numbered wanted k) ↔ taken' (numbered wanted k)) :=
    fun k hk => htaken _ (.inr ⟨k, hk, rfl⟩)
  have hwanted : taken wanted ↔ taken' wanted := htaken wanted (.inl rfl)
  cases h with
  | kept free => exact .kept (mt hwanted.2 free)
  | counted k clash two smaller free =>
    exact .counted k (hwanted.1 clash) two
      (fun j hj hlt => (hnumbered j hj).1 (smaller j hj hlt)) (mt (hnumbered k two).2 free)

/-- Only what is taken of the forms counts. -/
theorem congr (htaken : ∀ x, IsForm wanted x → (taken x ↔ taken' x)) :
    Becomes taken wanted name ↔ Becomes taken' wanted name :=
  ⟨of_forms htaken, of_forms fun x hx => (htaken x hx).symm⟩

/-- Where a name alone is taken, it becomes its second form. -/
theorem second (wanted : String) : Becomes (Occurs [wanted]) wanted (numbered wanted 2) := by
  refine .counted 2 ⟨wanted, List.mem_cons_self, sameName_refl wanted⟩ (Nat.le_refl 2)
    (fun j hj hlt => by omega) ?_
  rintro ⟨name, hmem, hsame⟩
  obtain rfl := List.mem_singleton.1 hmem
  exact fold_numbered_ne name 2 (sameName_iff.1 hsame).symm

end Becomes

namespace UsedNames

theorem contains_empty (name : String) : empty.contains name = false := Trie.contains_empty _

/-- **A free name is what the wanted name becomes.** -/
theorem freeName_eq_iff {u : UsedNames} {wanted name : String} :
    u.freeName wanted = name ↔ Becomes (fun x => u.contains x = true) wanted name := by
  constructor
  · rintro rfl
    rw [freeName]
    split
    · next htaken =>
      obtain ⟨⟨htwo, -⟩, hfree, hsmaller⟩ :=
        firstFree_spec u wanted u.size 2 (u.exists_free_number htaken)
      exact .counted _ htaken htwo hsmaller (by simp [hfree])
    · next hfree => exact .kept hfree
  · intro h
    cases h with
    | kept hfree => rw [freeName, if_neg hfree]
    | counted k htaken htwo hsmaller hfree =>
      obtain ⟨⟨htwo', -⟩, hfree', hsmaller'⟩ :=
        firstFree_spec u wanted u.size 2 (u.exists_free_number htaken)
      -- neither number can be below the other, as each is free and takes all smaller ones
      have hle : ¬u.firstFree wanted 2 u.size < k := fun hlt => by
        simp [hsmaller _ htwo' hlt] at hfree'
      have hge : ¬k < u.firstFree wanted 2 u.size := fun hlt => hfree (hsmaller' k htwo hlt)
      rw [freeName, if_pos htaken, Nat.le_antisymm (Nat.not_lt.1 hge) (Nat.not_lt.1 hle)]

/-- After a claim, the name that was claimed is taken as well. -/
theorem contains_claim (u : UsedNames) (wanted x : String) :
    (u.claim wanted).2.contains x = true ↔
      u.contains x = true ∨ sameName (u.claim wanted).1 x = true := by
  rw [contains_iff, contains_iff, keys_claim, List.mem_cons, sameName_iff, or_comm, eq_comm]

/-- **Every name of a list of claims is what its wanted name becomes** where the names before it are
taken, besides those that were taken from the start. -/
theorem getElem?_claimAll_eq_some_iff {u : UsedNames} {wanted : List String} {i : Nat}
    {name : String} : (u.claimAll wanted).1[i]? = some name ↔ ∃ w, wanted[i]? = some w ∧
      Becomes (fun x => u.contains x = true ∨ Occurs ((u.claimAll wanted).1.take i) x) w name := by
  induction wanted generalizing u i with
  | nil => simp [claimAll]
  | cons w wanted ih =>
    rw [claimAll_cons]
    cases i with
    | zero =>
      simp only [List.getElem?_cons_zero, Option.some.injEq, exists_eq_left', List.take_zero]
      rw [claim, freeName_eq_iff]
      exact Becomes.congr fun x _ => by simp [Occurs]
    | succ i =>
      rw [List.getElem?_cons_succ, List.getElem?_cons_succ, ih]
      refine exists_congr fun w' => and_congr_right fun _ => Becomes.congr fun x _ => ?_
      rw [contains_claim, List.take_succ_cons, or_assoc]
      simp [Occurs]

/-- **A name is claimed just if a wanted name becomes it**, given the names before. -/
theorem mem_claimAll_iff {wanted : List String} {name : String} :
    name ∈ (empty.claimAll wanted).1 ↔ ∃ i w, wanted[i]? = some w ∧
      Becomes (Occurs ((empty.claimAll wanted).1.take i)) w name := by
  rw [List.mem_iff_getElem?]
  refine exists_congr fun i => ?_
  rw [getElem?_claimAll_eq_some_iff]
  refine exists_congr fun w => and_congr_right fun _ => Becomes.congr fun x _ => ?_
  exact or_iff_right (Bool.eq_false_iff.1 (contains_empty x))

/-- A name that does not begin with a wanted one is not that one with a number. -/
theorem ne_numbered {name wanted : String} (h : ¬wanted.toList <+: name.toList) (k : Nat) :
    name ≠ numbered wanted k := by
  rintro rfl
  rw [numbered, String.toList_append] at h
  exact h (List.prefix_append _ _)

/-- No name is claimed that is not a wanted one, with a number or without. -/
theorem not_mem_claimAll {wanted : List String} {name : String}
    (h : ∀ w ∈ wanted, name ≠ w ∧ ∀ k, 2 ≤ k → name ≠ numbered w k) :
    name ∉ (empty.claimAll wanted).1 := by
  intro hmem
  obtain ⟨i, w, hw, hbecomes⟩ := mem_claimAll_iff.1 hmem
  obtain ⟨hne, hnumbered⟩ := h w (List.mem_of_getElem? hw)
  rcases hbecomes.isForm with heq | ⟨k, hk, heq⟩
  · exact hne heq
  · exact hnumbered k hk heq

end UsedNames
end Naming
end Entigram
