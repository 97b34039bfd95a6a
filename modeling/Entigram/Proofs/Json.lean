import Mathlib.Data.List.Nodup
import Entigram.Json.Basic

/-!
# Objects and their keys

The fields of an object are a list, in which a key could stand twice.  Configurations are not like
that: each key stands for one field, and so it is in every object among the fields (`Keyed`).  Then
the fields are what can be looked up (`get?_eq_some_iff`).

Fields that are given the value they have stay as they are (`put_of_get?`).
-/

set_option autoImplicit false

namespace Entigram
namespace Json

/-- Is the value an object? -/
def isObject : Json → Bool
  | .obj _ => true
  | _ => false

variable {fields : Fields} {key : String} {value : Json}

/-! ## Looking up -/

theorem mem_of_get? (h : get? key fields = some value) : (key, value) ∈ fields := by
  induction fields with
  | nil => cases h
  | cons f rest ih =>
    obtain ⟨k, v⟩ := f
    rw [get?] at h
    split at h
    · next hk =>
      rw [hk, Option.some_inj.1 h]
      exact List.mem_cons_self
    · exact List.mem_cons_of_mem _ (ih h)

theorem get?_eq_none_iff : get? key fields = none ↔ key ∉ fields.map Prod.fst := by
  induction fields with
  | nil => simp [get?]
  | cons f rest ih =>
    obtain ⟨k, v⟩ := f
    rw [get?, List.map_cons, List.mem_cons, not_or, ← ih]
    split
    · next hk => simp [hk]
    · next hk => exact (and_iff_right (Ne.symm hk)).symm

/-- Where each key stands for one field, the fields are what can be looked up. -/
theorem get?_eq_some_iff (h : (fields.map Prod.fst).Nodup) :
    get? key fields = some value ↔ (key, value) ∈ fields := by
  refine ⟨mem_of_get?, fun hmem => ?_⟩
  induction fields with
  | nil => cases hmem
  | cons f rest ih =>
    rw [List.map_cons, List.nodup_cons] at h
    rw [get?]
    rcases List.mem_cons.1 hmem with rfl | hmem
    · exact if_pos rfl
    · have hne : f.1 ≠ key := by
        rintro rfl
        exact h.1 (List.mem_map.2 ⟨_, hmem, rfl⟩)
      rw [if_neg hne]
      exact ih h.2 hmem

/-! ## Giving values -/

theorem mem_put {f : String × Json} (h : f ∈ put key value fields) :
    f = (key, value) ∨ f ∈ fields := by
  induction fields with
  | nil => exact .inl (List.mem_singleton.1 h)
  | cons g rest ih =>
    rw [put] at h
    split at h
    · exact (List.mem_cons.1 h).imp_right (List.mem_cons_of_mem _)
    · rcases List.mem_cons.1 h with rfl | h
      · exact .inr List.mem_cons_self
      · exact (ih h).imp_right (List.mem_cons_of_mem _)

/-- Giving values keeps the keys apart. -/
theorem nodup_put (h : (fields.map Prod.fst).Nodup) :
    ((put key value fields).map Prod.fst).Nodup := by
  induction fields with
  | nil => exact List.nodup_singleton key
  | cons f rest ih =>
    obtain ⟨k, v⟩ := f
    rw [List.map_cons, List.nodup_cons] at h
    rw [put]
    split
    · next hk =>
      subst hk
      exact List.nodup_cons.2 h
    · next hk =>
      refine List.nodup_cons.2 ⟨fun hmem => ?_, ih h.2⟩
      obtain ⟨g, hg, hgk⟩ := List.mem_map.1 hmem
      rcases mem_put hg with rfl | hg
      · exact hk hgk.symm
      · exact h.1 (List.mem_map.2 ⟨g, hg, hgk⟩)

/-- A field that is given the value it has stays. -/
theorem put_of_get? (h : get? key fields = some value) : put key value fields = fields := by
  induction fields with
  | nil => cases h
  | cons f rest ih =>
    obtain ⟨k, v⟩ := f
    rw [get?] at h
    rw [put]
    split at h
    · next hk => rw [if_pos hk, hk, Option.some_inj.1 h]
    · next hk => rw [if_neg hk, ih h]

/-- What stands under a key after some keys were given values: the value that it was given, or else
what stood there before. -/
theorem get?_foldl_put {upper : Fields} (hkeys : (upper.map Prod.fst).Nodup) (fields : Fields) :
    get? key (upper.foldl (fun fs f => Json.put f.1 f.2 fs) fields) =
      (get? key upper).or (get? key fields) := by
  induction upper generalizing fields with
  | nil => rfl
  | cons f upper ih =>
    obtain ⟨k, v⟩ := f
    rw [List.map_cons, List.nodup_cons] at hkeys
    rw [List.foldl_cons, ih hkeys.2, get?_put, get?]
    split
    · next hk =>
      subst hk
      rw [get?_eq_none_iff.2 hkeys.1]
      rfl
    · rfl

/-! ## Keys that stand for one field -/

/-- Every key stands for one field, among these fields and in the objects among them. -/
inductive Keyed : Fields → Prop
  | intro {fields : Fields} (nodup : (fields.map Prod.fst).Nodup)
      (inner : ∀ key below, get? key fields = some (.obj below) → Keyed below) : Keyed fields

namespace Keyed

theorem nodup (h : Keyed fields) : (fields.map Prod.fst).Nodup := by
  cases h with
  | intro nodup inner => exact nodup

theorem inner {below : Fields} (h : Keyed fields) (hkey : get? key fields = some (.obj below)) :
    Keyed below := by
  cases h with
  | intro nodup inner => exact inner key below hkey

theorem nil : Keyed [] := .intro List.nodup_nil nofun

/-- One field more, with a key of its own. -/
theorem cons (hnew : get? key fields = none) (hvalue : ∀ below, value = .obj below → Keyed below)
    (h : Keyed fields) : Keyed ((key, value) :: fields) := by
  refine .intro (List.nodup_cons.2 ⟨get?_eq_none_iff.1 hnew, h.nodup⟩) fun k below hk => ?_
  rw [get?] at hk
  split at hk
  · exact hvalue below (Option.some_inj.1 hk)
  · exact h.inner hk

/-- A value for a key, in its place or behind the others. -/
theorem put (h : Keyed fields) (hvalue : ∀ below, value = .obj below → Keyed below) :
    Keyed (Json.put key value fields) := by
  refine .intro (nodup_put h.nodup) fun k below hk => ?_
  rw [get?_put] at hk
  split at hk
  · exact hvalue below (Option.some_inj.1 hk)
  · exact h.inner hk

/-- One object more, with a key of its own. -/
theorem object {inner : Fields} (hnew : get? key fields = none) (hinner : Keyed inner)
    (h : Keyed fields) : Keyed ((key, .obj inner) :: fields) :=
  cons hnew (fun _ hbelow => Json.obj.inj hbelow ▸ hinner) h

end Keyed
end Json
end Entigram
