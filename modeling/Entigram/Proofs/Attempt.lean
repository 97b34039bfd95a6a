import Mathlib.Data.List.Forall2

/-!
# Attempts, one after another

Plans are made by going through a list and trying something for each of its entries; the first
attempt that fails ends the whole (`List.mapM` for `Except`).  Both outcomes can be said without the
order of events:

* `mapM_eq_ok_iff` — it succeeds with the results of the attempts when all of them succeed.
* `map_of_mapM_eq_ok` — what can be told of every result from its entry can be told of all of them.
* `forall₂_of_mapM_eq_ok` — what relates the results of two attempts at every entry relates the two
  lists of results.
* `fault?_mapM` — it fails with what the first failing attempt failed with.

Two runs are compared by `Agree`: they come to the same, or to faults that are related.  Attempts
that agree entry by entry agree as a whole (`Agree.mapM`).
-/

set_option autoImplicit false

namespace Entigram
namespace Attempt

variable {ε α β : Type}

/-- What an attempt failed with. -/
def fault? : Except ε α → Option ε
  | .error e => some e
  | .ok _ => none

theorem fault?_eq_some_iff {x : Except ε α} {e : ε} : fault? x = some e ↔ x = .error e := by
  cases x <;> simp [fault?]

theorem fault?_eq_none_iff {x : Except ε α} : fault? x = none ↔ ∃ a, x = .ok a := by
  cases x <;> simp [fault?]

theorem map_eq_ok_iff {f : α → β} {x : Except ε α} {b : β} :
    x.map f = .ok b ↔ ∃ a, x = .ok a ∧ f a = b := by
  cases x <;> simp [Except.map]

theorem mapError_eq_ok_iff {δ : Type} {f : ε → δ} {x : Except ε α} {a : α} :
    x.mapError f = .ok a ↔ x = .ok a := by
  cases x <;> simp [Except.mapError]

/-- What is to be seen of an outcome is to be seen of what it came to. -/
theorem eq_of_map_toOption (f : α → β) {x : Except ε α} {a : α} {b : β} (h : x = .ok a)
    (hb : x.toOption.map f = some b) : f a = b := by
  rw [h] at hb
  exact Option.some_inj.1 hb

/-- Two steps succeed when the first does and the second does with what came of it. -/
theorem bind_eq_ok_iff {x : Except ε α} {g : α → Except ε β} {b : β} :
    (x >>= g) = .ok b ↔ ∃ a, x = .ok a ∧ g a = .ok b := by
  cases x <;> simp [bind, Except.bind]

/-- Going through a list succeeds exactly when every attempt does. -/
theorem mapM_eq_ok_iff {f : α → Except ε β} {xs : List α} {ys : List β} :
    xs.mapM f = .ok ys ↔ xs.map f = ys.map .ok := by
  induction xs generalizing ys with
  | nil => cases ys <;> simp [pure, Except.pure]
  | cons x xs ih =>
    rw [List.mapM_cons, bind_eq_ok_iff]
    constructor
    · rintro ⟨y, hx, h⟩
      obtain ⟨rest, hrest, h⟩ := bind_eq_ok_iff.1 h
      obtain rfl : y :: rest = ys := by injection h
      rw [List.map_cons, List.map_cons, hx, ih.1 hrest]
    · intro h
      obtain ⟨y, rest, rfl, hx, hrest⟩ := List.map_eq_cons_iff.1 h.symm
      exact ⟨y, hx.symm, bind_eq_ok_iff.2 ⟨rest, ih.2 hrest.symm, rfl⟩⟩

theorem map_of_mapM_eq_ok {γ : Type} {f : α → Except ε β} {xs : List α} {ys : List β}
    (h : xs.mapM f = .ok ys) {g : α → γ} {k : β → γ} (hk : ∀ x y, f x = .ok y → k y = g x) :
    ys.map k = xs.map g := by
  rw [mapM_eq_ok_iff] at h
  induction xs generalizing ys with
  | nil => rw [List.map_eq_nil_iff.1 h.symm]; rfl
  | cons x xs ih =>
    obtain ⟨y, rest, rfl, hx, hrest⟩ := List.map_eq_cons_iff.1 h.symm
    rw [List.map_cons, List.map_cons, hk x y hx.symm, ih hrest.symm]

theorem forall₂_of_mapM_eq_ok {γ : Type} {f : α → Except ε β} {g : α → Except ε γ} {xs : List α}
    {ys : List β} {zs : List γ} {R : β → γ → Prop} (hf : xs.mapM f = .ok ys)
    (hg : xs.mapM g = .ok zs) (hR : ∀ x y z, f x = .ok y → g x = .ok z → R y z) :
    List.Forall₂ R ys zs := by
  rw [mapM_eq_ok_iff] at hf hg
  induction xs generalizing ys zs with
  | nil =>
    rw [List.map_eq_nil_iff.1 hf.symm, List.map_eq_nil_iff.1 hg.symm]
    exact .nil
  | cons x xs ih =>
    obtain ⟨y, ys, rfl, hy, hys⟩ := List.map_eq_cons_iff.1 hf.symm
    obtain ⟨z, zs, rfl, hz, hzs⟩ := List.map_eq_cons_iff.1 hg.symm
    exact .cons (hR x y z hy.symm hz.symm) (ih hys.symm hzs.symm)

/-- Going through a list fails as the first failing attempt does. -/
theorem fault?_mapM (f : α → Except ε β) (xs : List α) :
    fault? (xs.mapM f) = xs.findSome? fun x => fault? (f x) := by
  induction xs with
  | nil => rfl
  | cons x xs ih =>
    rw [List.mapM_cons, List.findSome?_cons, ← ih]
    cases hx : f x with
    | error e => rfl
    | ok y => cases xs.mapM f <;> rfl

/-! ## Two attempts that agree -/

/-- Both attempts come to the same, or both fail and `F` relates their faults. -/
inductive Agree (F : ε → ε → Prop) : Except ε α → Except ε α → Prop
  | ok (a : α) : Agree F (.ok a) (.ok a)
  | error {e e' : ε} (h : F e e') : Agree F (.error e) (.error e')

namespace Agree

variable {F : ε → ε → Prop}

/-- Attempts that agree to the fault are equal. -/
protected theorem eq (hF : ∀ e e', F e e' → e = e') {x y : Except ε α} (h : Agree F x y) :
    x = y := by
  cases h with
  | ok a => rfl
  | error he => rw [hF _ _ he]

theorem eq_ok {a : α} {x : Except ε α} (h : Agree F (.ok a) x) : x = .ok a := by
  cases h
  rfl

theorem map (f : α → β) {x y : Except ε α} (h : Agree F x y) : Agree F (x.map f) (y.map f) := by
  cases h with
  | ok a => exact .ok (f a)
  | error he => exact .error he

theorem mapError {δ : Type} {G : δ → δ → Prop} {f : ε → δ} (hf : ∀ e e', F e e' → G (f e) (f e'))
    {x y : Except ε α} (h : Agree F x y) : Agree G (x.mapError f) (y.mapError f) := by
  cases h with
  | ok a => exact .ok a
  | error he => exact .error (hf _ _ he)

theorem bind {x y : Except ε α} (h : Agree F x y) {f g : α → Except ε β}
    (hfg : ∀ a, Agree F (f a) (g a)) : Agree F (x >>= f) (y >>= g) := by
  cases h with
  | ok a => exact hfg a
  | error he => exact .error he

/-- Two runs agree that agree entry by entry. -/
theorem mapM {γ : Type} {f : α → Except ε β} {g : γ → Except ε β} {xs : List α} {ys : List γ}
    (h : List.Forall₂ (fun x y => Agree F (f x) (g y)) xs ys) :
    Agree F (xs.mapM f) (ys.mapM g) := by
  induction h with
  | nil => exact .ok []
  | cons hxy _ ih =>
    rw [List.mapM_cons, List.mapM_cons]
    exact hxy.bind fun b => ih.bind fun bs => .ok (b :: bs)

end Agree

end Attempt
end Entigram
