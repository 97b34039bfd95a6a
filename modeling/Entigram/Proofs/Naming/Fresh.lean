import Mathlib.Data.List.Nodup
import Entigram.Naming.Used

/-!
# Claimed names are fresh

`UsedNames.claim` promises a name that nobody in the scope has.  Two things have to be seen for it.

* **The search ends at a free number.**  A number behind a name survives folding (`fold_toString`),
  so the numbered forms of one name stay apart when they are folded (`fold_numbered_inj`).  If all
  the candidates that the search may try were taken, there would be more keys than names in use,
  because the wanted name itself is one as well (`exists_free_number`).
* **What is claimed is remembered.**  Every claim puts one key in front of the others
  (`keys_claim`), so after a list of claims the keys are the folded names in reverse
  (`keys_claimAll`).  A scope's keys are free of repetition by construction, and this is how the
  names of a list come to be distinct (`nodup_claimAll`).
-/

set_option autoImplicit false

namespace Entigram
namespace Naming

open Text

/-! ## Numbered names -/

theorem foldChar_of_isDigit {c : Char} (h : c.isDigit = true) : foldChar c = [c] := by
  have hc : c.toNat ≤ 57 := (Char.isDigit_iff_toNat.1 h).2
  have hupper : ¬(c.val ≥ 'A'.val ∧ c.val ≤ 'Z'.val) := by
    rintro ⟨hA, -⟩
    have : 65 ≤ c.toNat := UInt32.le_iff_toNat_le.1 hA
    omega
  have hlower : c.toLower = c := dif_neg hupper
  rw [foldChar, if_pos (by omega), hlower]

/-- Folding leaves a number as it is. -/
theorem fold_toString (k : Nat) : fold (toString k) = toString k := by
  have hdigits : ∀ c ∈ Nat.toDigits 10 k, foldChar c = [c] := fun c hc =>
    foldChar_of_isDigit (Nat.isDigit_of_mem_toDigits (by decide) (by decide) hc)
  rw [fold, foldChars, Nat.toString_eq_ofList_toDigits, String.toList_ofList,
    List.flatMap_congr hdigits, List.flatMap_singleton']

theorem toString_inj {j k : Nat} (h : toString j = toString k) : j = k := by
  rw [Nat.toString_eq_ofList_toDigits, Nat.toString_eq_ofList_toDigits, String.ofList_inj] at h
  rw [← @Nat.ofDigitChars_ten_toDigits j, h, Nat.ofDigitChars_ten_toDigits]

namespace UsedNames

theorem fold_numbered (base : String) (k : Nat) :
    fold (numbered base k) = fold base ++ toString k := by
  rw [numbered, fold_append, fold_toString]

/-- The numbered forms of a name differ by more than case. -/
theorem fold_numbered_inj {base : String} {j k : Nat}
    (h : fold (numbered base j) = fold (numbered base k)) : j = k := by
  rw [fold_numbered, fold_numbered] at h
  refine toString_inj ?_
  rw [← String.toList_inj] at h ⊢
  simpa using h

/-- No numbered form of a name is the name itself. -/
theorem fold_numbered_ne (base : String) (k : Nat) : fold (numbered base k) ≠ fold base := by
  intro h
  rw [fold_numbered, ← String.toList_inj, String.toList_append] at h
  have hnil : (toString k).toList = [] := List.append_right_eq_self.1 h
  rw [Nat.toString_eq_ofList_toDigits, String.toList_ofList] at hnil
  exact Nat.toDigits_ne_nil hnil

/-! ## The search for a number -/

/-- Of the first numbers from two on, as many as there are names in use, one is free. -/
theorem exists_free_number (u : UsedNames) {base : String} (h : u.contains base = true) :
    ∃ j, 2 ≤ j ∧ j < 2 + u.size ∧ u.contains (numbered base j) = false := by
  by_contra hall
  push Not at hall
  -- The name and its numbered forms are one key more than there are.
  have hsub : fold base :: (List.range' 2 u.size).map (fun j => fold (numbered base j))
      ⊆ u.keys := by
    intro key hkey
    rcases List.mem_cons.1 hkey with rfl | hkey
    · exact contains_iff.1 h
    · obtain ⟨j, hj, rfl⟩ := List.mem_map.1 hkey
      obtain ⟨h2, hlt⟩ := List.mem_range'_1.1 hj
      exact contains_iff.1 (by simpa using hall j h2 hlt)
  have hnodup :
      (fold base :: (List.range' 2 u.size).map fun j => fold (numbered base j)).Nodup := by
    refine List.nodup_cons.2 ⟨?_, ?_⟩
    · rw [List.mem_map]
      rintro ⟨j, -, hj⟩
      exact fold_numbered_ne base j hj
    · exact List.Nodup.map (fun _ _ => fold_numbered_inj) List.nodup_range'
  have hle := hnodup.length_le_of_subset hsub
  rw [List.length_cons, List.length_map, List.length_range'] at hle
  exact Nat.not_succ_le_self _ hle

/-- The search finds the first free number, if there is one among its candidates. -/
theorem firstFree_spec (u : UsedNames) (base : String) (tries k : Nat)
    (h : ∃ j, k ≤ j ∧ j < k + tries ∧ u.contains (numbered base j) = false) :
    (k ≤ u.firstFree base k tries ∧ u.firstFree base k tries < k + tries) ∧
      u.contains (numbered base (u.firstFree base k tries)) = false ∧
      ∀ j, k ≤ j → j < u.firstFree base k tries → u.contains (numbered base j) = true := by
  induction tries generalizing k with
  | zero => obtain ⟨j, hk, hj, -⟩ := h; omega
  | succ n ih =>
    rw [firstFree]
    split
    · rename_i htaken
      obtain ⟨j, hk, hj, hfree⟩ := h
      have hne : j ≠ k := by rintro rfl; simp [htaken] at hfree
      obtain ⟨⟨hlo, hhi⟩, hf, hmin⟩ := ih (k + 1) ⟨j, by omega, by omega, hfree⟩
      refine ⟨⟨by omega, by omega⟩, hf, fun i hi hlt => ?_⟩
      rcases Nat.eq_or_lt_of_le hi with rfl | hi
      · exact htaken
      · exact hmin i hi hlt
    · rename_i hfree
      exact ⟨⟨Nat.le_refl k, by omega⟩, by simpa using hfree, fun j hj hlt => by omega⟩

/-! ## Claiming -/

/-- **A free name is free.** -/
theorem contains_freeName (u : UsedNames) (base : String) :
    u.contains (u.freeName base) = false := by
  rw [freeName]
  split
  · rename_i h
    exact (firstFree_spec u base u.size 2 (u.exists_free_number h)).2.1
  · rename_i h
    simpa using h

theorem keys_insert_of_free {u : UsedNames} {name : String} (h : u.contains name = false) :
    (u.insert name).keys = fold name :: u.keys := by
  simp [insert, h]

/-- A claim adds one key. -/
theorem keys_claim (u : UsedNames) (base : String) :
    (u.claim base).2.keys = fold (u.claim base).1 :: u.keys :=
  keys_insert_of_free (u.contains_freeName base)

theorem claimAll_cons (u : UsedNames) (base : String) (rest : List String) :
    u.claimAll (base :: rest) =
      ((u.claim base).1 :: ((u.claim base).2.claimAll rest).1,
        ((u.claim base).2.claimAll rest).2) :=
  rfl

@[simp] theorem length_claimAll (u : UsedNames) (bases : List String) :
    (u.claimAll bases).1.length = bases.length := by
  induction bases generalizing u with
  | nil => rfl
  | cons base rest ih => simp [claimAll_cons, ih]

/-- Claims in two parts are claims in one go, the second with what the first has left. -/
theorem claimAll_append (u : UsedNames) (first second : List String) :
    u.claimAll (first ++ second) =
      ((u.claimAll first).1 ++ ((u.claimAll first).2.claimAll second).1,
        ((u.claimAll first).2.claimAll second).2) := by
  induction first generalizing u with
  | nil => rfl
  | cons base rest ih => simp [claimAll_cons, ih]

/-- The keys after a list of claims: what was claimed last stands first. -/
theorem keys_claimAll (u : UsedNames) (bases : List String) :
    (u.claimAll bases).2.keys = ((u.claimAll bases).1.map fold).reverse ++ u.keys := by
  induction bases generalizing u with
  | nil => simp [claimAll]
  | cons base rest ih => simp [claimAll_cons, ih, keys_claim]

/-- **The names of a list of claims are distinct**, whatever their case. -/
theorem nodup_claimAll (u : UsedNames) (bases : List String) :
    ((u.claimAll bases).1.map fold).Nodup := by
  have h := (u.claimAll bases).2.nodup
  rw [keys_claimAll, List.nodup_append] at h
  exact List.nodup_reverse.1 h.1

/-! ## What is made under claimed names

Properties, navigations and query surfaces are all made in one way: every part gives a wanted name,
and is put together with the name that was claimed for it. -/

section make

variable {α γ δ : Type} {want : α → String} {make : α → String → γ}

/-- What is made keeps its part. -/
theorem map_make {part : γ → δ} {f : α → δ} (h : ∀ x name, part (make x name) = f x)
    (u : UsedNames) (xs : List α) :
    (List.zipWith make xs (u.claimAll (xs.map want)).1).map part = xs.map f := by
  have hlen : xs.length ≤ (u.claimAll (xs.map want)).1.length := by simp
  rw [← List.map_uncurry_zip_eq_zipWith, List.map_map]
  conv_rhs => rw [← List.map_fst_zip hlen, List.map_map]
  exact List.map_congr_left fun p _ => h p.1 p.2

/-- What is made has the name that was claimed for it. -/
theorem map_name_make {name : γ → String} (h : ∀ x claimed, name (make x claimed) = claimed)
    (u : UsedNames) (xs : List α) :
    (List.zipWith make xs (u.claimAll (xs.map want)).1).map name =
      (u.claimAll (xs.map want)).1 := by
  have hlen : (u.claimAll (xs.map want)).1.length ≤ xs.length := by simp
  rw [← List.map_uncurry_zip_eq_zipWith, List.map_map]
  conv_rhs => rw [← List.map_snd_zip hlen]
  exact List.map_congr_left fun p _ => h p.1 p.2

/-- No two things that are made have one name. -/
theorem nodup_make {name : γ → String} (h : ∀ x claimed, name (make x claimed) = claimed)
    (u : UsedNames) (xs : List α) :
    ((List.zipWith make xs (u.claimAll (xs.map want)).1).map fun y => fold (name y)).Nodup := by
  have hnodup := u.nodup_claimAll (xs.map want)
  rw [← map_name_make h, List.map_map] at hnodup
  exact hnodup

end make

end UsedNames

end Naming
end Entigram
