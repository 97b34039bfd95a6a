import Mathlib.Order.Bounds.Basic
import Entigram.Proofs.Naming.Numbering

/-!
# The search for a free name

A free name is found by asking.  The wanted name is asked for first, and if somebody has it, then it
is asked for with 2, 3, 4 and so on behind it.  To ask for a name is to take it if nobody has it, so
the search changes nothing until it succeeds, and nothing in it says that it ever does (`Asks`).

It ends at the least free number, and nowhere else (`asks_iff`).  There is such a number, and it is
at most one more than there are names in use: with the wanted name among them, so many numbered
forms cannot all be taken (`isLeast_firstFree`).

`claim_least_free` puts this together: what a claim gives, where its search ends, and what is in use
afterwards.
-/

set_option autoImplicit false

namespace Entigram
namespace Naming
namespace UsedNames

open Text

variable {u v : UsedNames} {base : String} {k m : Nat}

/-- A name that is taken is not taken again. -/
theorem insert_of_contains {name : String} (h : u.contains name = true) : u.insert name = u :=
  dif_pos h

/-! ## The search as it goes on -/

/-- Asks for the wanted name with `k` behind it, and with the next number after it as long as
somebody has the name.  What comes of it are the number that was free and the names that are in use
then.  The relation sets no bound to the search. -/
inductive Asks (base : String) : UsedNames → Nat → Nat → UsedNames → Prop
  | granted {u : UsedNames} {k : Nat} (free : u.contains (numbered base k) = false) :
      Asks base u k k (u.insert (numbered base k))
  | refused {u v : UsedNames} {k m : Nat} (taken : u.contains (numbered base k) = true)
      (rest : Asks base (u.insert (numbered base k)) (k + 1) m v) : Asks base u k m v

/-- The numbers from `k` on whose names are free. -/
def freeNumbers (u : UsedNames) (base : String) (k : Nat) : Set Nat :=
  {j | k ≤ j ∧ u.contains (numbered base j) = false}

/-- Where the name with `k` is taken, it is the numbers behind `k` that are in question. -/
theorem freeNumbers_succ (h : u.contains (numbered base k) = true) :
    u.freeNumbers base (k + 1) = u.freeNumbers base k := by
  ext j
  refine and_congr_left fun hfree => ⟨Nat.le_of_succ_le, fun hle => ?_⟩
  have hne : k ≠ j := by
    rintro rfl
    simp [h] at hfree
  exact Nat.lt_of_le_of_ne hle hne

/-- **The search ends at the least free number**, and takes its name. -/
theorem asks_iff : Asks base u k m v ↔
    IsLeast (u.freeNumbers base k) m ∧ v = u.insert (numbered base m) := by
  constructor
  · intro h
    induction h with
    | granted free => exact ⟨⟨⟨Nat.le_refl _, free⟩, fun j hj => hj.1⟩, rfl⟩
    | refused taken _ ih =>
      rw [insert_of_contains taken, freeNumbers_succ taken] at ih
      exact ih
  · rintro ⟨hleast, rfl⟩
    obtain ⟨d, rfl⟩ := Nat.exists_eq_add_of_le hleast.1.1
    -- as many steps as there are numbers below the free one
    induction d generalizing k with
    | zero => exact .granted hleast.1.2
    | succ d ih =>
      have htaken : u.contains (numbered base k) = true := by
        by_contra hfree
        have hle := hleast.2 ⟨Nat.le_refl k, by simpa using hfree⟩
        omega
      rw [← freeNumbers_succ htaken, show k + (d + 1) = k + 1 + d by omega] at hleast
      refine .refused htaken ?_
      rw [insert_of_contains htaken, show k + (d + 1) = k + 1 + d by omega]
      exact ih hleast

/-! ## What a claim does -/

/-- A taken name is given the least free number, which is at most one more than there are names. -/
theorem isLeast_firstFree (h : u.contains base = true) :
    IsLeast (u.freeNumbers base 2) (u.firstFree base 2 u.size) ∧
      u.firstFree base 2 u.size ≤ u.size + 1 := by
  obtain ⟨⟨htwo, hbound⟩, hfree, hsmaller⟩ :=
    firstFree_spec u base u.size 2 (u.exists_free_number h)
  refine ⟨⟨⟨htwo, hfree⟩, fun j hj => Nat.le_of_not_lt fun hlt => ?_⟩, by omega⟩
  have htaken := hsmaller j hj.1 hlt
  rw [hj.2] at htaken
  cases htaken

/-- **A claim ends with the least free name**, whatever names are in use and whatever is wanted.
The wanted name is given if it is free; otherwise the search for a number from two on ends, at the
smallest number whose name is free, and this is at most one more than there are names in use.  The
name that is given was free, and is the one name that is in use afterwards and was not before. -/
theorem claim_least_free (u : UsedNames) (base : String) :
    (u.contains base = false ∧ u.claim base = (base, u.insert base) ∨
      u.contains base = true ∧ ∃ k v, Asks base u 2 k v ∧ u.claim base = (numbered base k, v) ∧
        IsLeast {j | 2 ≤ j ∧ u.contains (numbered base j) = false} k ∧ k ≤ u.size + 1) ∧
      u.contains (u.claim base).1 = false ∧
      (u.claim base).2.keys = fold (u.claim base).1 :: u.keys ∧
      (∀ name, (u.claim base).2.contains name = true ↔
        u.contains name = true ∨ sameName (u.claim base).1 name = true) ∧
      (u.claim base).2.size = u.size + 1 := by
  have hkeys := u.keys_claim base
  refine ⟨?_, u.contains_freeName base, hkeys, u.contains_claim base, ?_⟩
  · cases hbase : u.contains base with
    | false =>
      have hname : u.freeName base = base := by simp [freeName, hbase]
      exact .inl ⟨rfl, by rw [claim, hname]⟩
    | true =>
      obtain ⟨hleast, hbound⟩ := isLeast_firstFree hbase
      have hname : u.freeName base = numbered base (u.firstFree base 2 u.size) :=
        if_pos hbase
      exact .inr ⟨rfl, _, _, asks_iff.2 ⟨hleast, rfl⟩, by rw [claim, hname], hleast, hbound⟩
  · rw [size, hkeys, List.length_cons, size]

/-- The bound is reached if the names in use are the wanted one and its first numbered forms. -/
example : ((ofList ["ITEM", "Item2", "item3"]).claim "Item").1 = "Item4" := by decide +kernel

end UsedNames
end Naming
end Entigram
