import Entigram.Config.Tree
import Entigram.Proofs.Text.Pieces

/-!
# Setting values by paths

A variable sets the value at the end of a path, and makes objects on the way where there are none.
Read again, the tree has that value there (`read?_setAt_self`).  Every path that leads elsewhere
reads as before (`read?_setAt_of_apart`), also a path that leads through something that was no
object and was replaced by one: nothing could be read through it, and nothing can be read in a new
object besides what was set.

The name of a variable tells at most one section (`eq_of_variablePath?`), and a path in it that is
not empty.  So variables set their values in turn, and only a section can be in the way: the one
object that is not made on the way is the section itself.  If there is something else in its place,
the first variable of the section ends the change (`fault_applyVariables_eq_none_iff`).
-/

set_option autoImplicit false

namespace Entigram
namespace Config

open Text

/-! ## Reading after setting -/

section read

variable {key : String} {path q : List String} {value : Json}

theorem read?_obj_cons (fs : Json.Fields) (key : String) (path : List String) :
    read? (.obj fs) (key :: path) = (Json.get? key fs).bind fun v => read? v path := by
  rw [read?]

theorem read?_pair_eq_some_iff {fs : Json.Fields} {key next : String} {v : Json} :
    read? (.obj fs) [key, next] = some v ↔
      ∃ inner, Json.get? key fs = some (.obj inner) ∧ Json.get? next inner = some v := by
  rw [read?_obj_cons, Option.bind_eq_some_iff]
  constructor
  · rintro ⟨w, hw, hv⟩
    cases w with
    | obj inner =>
      rw [read?_obj_cons] at hv
      obtain ⟨_, hnext, hend⟩ := Option.bind_eq_some_iff.1 hv
      exact ⟨inner, hw, hend ▸ hnext⟩
    | _ => cases hv
  · rintro ⟨inner, hinner, hv⟩
    refine ⟨_, hinner, ?_⟩
    rw [read?_obj_cons, hv]
    rfl

/-- Below a key that is no object nothing can be read. -/
theorem read?_fieldsUnder (fs : Json.Fields) (key : String) (hq : q ≠ []) :
    read? (.obj (fieldsUnder key fs)) q = read? (.obj fs) (key :: q) := by
  obtain ⟨k, rest, rfl⟩ := List.exists_cons_of_ne_nil hq
  rw [read?_obj_cons fs, fieldsUnder]
  cases hkey : Json.get? key fs with
  | none => rfl
  | some v => cases v <;> rfl

/-- **What was set is read.** -/
theorem read?_setAt_self (fs : Json.Fields) (key : String) (path : List String) (value : Json) :
    read? (.obj (setAt fs key path value)) (key :: path) = some value := by
  induction path generalizing fs key with
  | nil => rw [setAt, read?_obj_cons, Json.get?_put, if_pos rfl]; rfl
  | cons next rest ih =>
    rw [setAt, read?_obj_cons, Json.get?_put, if_pos rfl]
    exact ih (fieldsUnder key fs) next

/-- **What was not set is read as before.** -/
theorem read?_setAt_of_apart (fs : Json.Fields) (h : ¬key :: path <+: q) (h' : ¬q <+: key :: path) :
    read? (.obj (setAt fs key path value)) q = read? (.obj fs) q := by
  induction path generalizing fs key q with
  | nil =>
    cases q with
    | nil => exact absurd List.nil_prefix h'
    | cons k q =>
      have hk : key ≠ k := by
        rintro rfl
        exact h (by simp)
      rw [setAt, read?_obj_cons, read?_obj_cons, Json.get?_put, if_neg hk]
  | cons next rest ih =>
    cases q with
    | nil => exact absurd List.nil_prefix h'
    | cons k q =>
      rw [setAt, read?_obj_cons, Json.get?_put]
      split
      · next hk =>
        subst hk
        rw [List.prefix_cons_inj] at h h'
        have hq : q ≠ [] := by
          rintro rfl
          exact h' List.nil_prefix
        rw [← read?_fieldsUnder fs key hq]
        exact ih (fieldsUnder key fs) h h'
      · rw [read?_obj_cons]

end read

/-! ## The paths of variables -/

theorem splitPairs_ne_nil (d : Char) (cs : List Char) : splitPairs d cs ≠ [] := by
  match cs with
  | [] => simp [splitPairs]
  | [c] => simp [splitPairs]
  | c :: c' :: cs =>
    rw [splitPairs]
    split
    · exact List.cons_ne_nil _ _
    · exact prepend_ne_nil _ _

theorem variablePath?_ne_nil {sectionName name : String} {path : List String}
    (h : variablePath? sectionName name = some path) : path ≠ [] := by
  rw [variablePath?] at h
  split at h
  · cases h
    simpa using splitPairs_ne_nil _ _
  · cases h

/-- A variable sets something in one section at most. -/
theorem eq_of_variablePath? {s t : String × String} (hs : s ∈ sections) (ht : t ∈ sections)
    {name : String} (h : (variablePath? s.2 name).isSome = true)
    (h' : (variablePath? t.2 name).isSome = true) : s = t := by
  have hstart : ∀ u : String × String, (variablePath? u.2 name).isSome = true →
      (variableStart u.2).toList <+: name.toList := by
    intro u hu
    rw [variablePath?] at hu
    split at hu
    · next hprefix => exact List.isPrefixOf_iff_prefix.1 hprefix
    · cases hu
  have hapart : ∀ u ∈ sections, ∀ v ∈ sections,
      (variableStart u.2).toList <+: (variableStart v.2).toList → u = v := by decide +kernel
  rcases List.prefix_or_prefix_of_prefix (hstart s h) (hstart t h') with hst | hts
  · exact hapart s hs t ht hst
  · exact (hapart t ht s hs hts).symm

/-! ## Setting values in sections -/

/-- The section is an object, or there is none. -/
def CanBeSet (fs : Json.Fields) (key : String) : Prop :=
  ∀ v, Json.get? key fs = some v → ∃ inner, v = .obj inner

/-- Where a section can be set, setting a value in it goes along the path from the root. -/
theorem setInSection_of_canBeSet {fs : Json.Fields} {key : String} (h : CanBeSet fs key)
    {path : List String} (hpath : path ≠ []) (value : Json) :
    setInSection fs key path value = .ok (setAt fs key path value) := by
  obtain ⟨first, rest, rfl⟩ := List.exists_cons_of_ne_nil hpath
  rw [setAt]
  cases hkey : Json.get? key fs with
  | none => simp only [setInSection, fieldsUnder, hkey]
  | some v =>
    obtain ⟨inner, rfl⟩ := h v hkey
    simp only [setInSection, fieldsUnder, hkey]

theorem setInSection_of_not_canBeSet {fs : Json.Fields} {key : String} (h : ¬CanBeSet fs key)
    (path : List String) (value : Json) :
    ∃ fault, setInSection fs key path value = .error fault := by
  unfold setInSection
  split
  · exact ⟨_, rfl⟩
  · next hkey => exact absurd (fun v hv => by rw [hkey] at hv; cases hv) h
  · next inner _ _ hkey =>
    refine absurd (fun v hv => ?_) h
    rw [hkey, Option.some_inj] at hv
    exact ⟨inner, hv.symm⟩
  · exact ⟨_, rfl⟩
  · exact ⟨_, rfl⟩

theorem canBeSet_congr {fs fs' : Json.Fields} {key : String}
    (h : Json.get? key fs = Json.get? key fs') : CanBeSet fs key ↔ CanBeSet fs' key := by
  rw [CanBeSet, CanBeSet, h]

theorem get?_setAt (fs : Json.Fields) (key other : String) (path : List String) (value : Json)
    (h : key ≠ other) : Json.get? other (setAt fs key path value) = Json.get? other fs := by
  cases path <;> rw [setAt, Json.get?_put, if_neg h]

theorem isSome_get?_setAt (fs : Json.Fields) (key : String) (path : List String) (value : Json) :
    (Json.get? key (setAt fs key path value)).isSome = true := by
  cases path <;> rw [setAt, Json.get?_put, if_pos rfl] <;> rfl

theorem canBeSet_setAt (fs : Json.Fields) (key : String) {path : List String} (hpath : path ≠ [])
    (value : Json) : CanBeSet (setAt fs key path value) key := by
  obtain ⟨next, rest, rfl⟩ := List.exists_cons_of_ne_nil hpath
  intro v hv
  rw [setAt, Json.get?_put, if_pos rfl, Option.some_inj] at hv
  exact ⟨_, hv.symm⟩

section ofVariables

variable {fs : Json.Fields} {key sectionName name value : String} {path : List String}
variable {vars : List (String × String)}

/-- The variables of a section leave the other keys as they are. -/
theorem get?_applySection (fs : Json.Fields) (vars : List (String × String)) {other : String}
    (h : key ≠ other) :
    Json.get? other (applySection key sectionName fs vars).fields = Json.get? other fs := by
  induction vars generalizing fs with
  | nil => rfl
  | cons v vars ih =>
    rw [applySection]
    split
    · exact ih fs
    · next path hpath =>
      by_cases hset : CanBeSet fs key
      · rw [setInSection_of_canBeSet hset (variablePath?_ne_nil hpath)]
        exact (ih _).trans (get?_setAt fs key other path _ h)
      · obtain ⟨fault, hfault⟩ := setInSection_of_not_canBeSet hset path (.str v.2)
        rw [hfault]

/-- The variables of a section set what they say if the section can be set. -/
theorem fault_applySection_eq_none_iff (fs : Json.Fields) (vars : List (String × String)) :
    (applySection key sectionName fs vars).fault = none ↔
      ((∃ v ∈ vars, (variablePath? sectionName v.1).isSome = true) → CanBeSet fs key) := by
  induction vars generalizing fs with
  | nil => simp [applySection]
  | cons v vars ih =>
    rw [applySection]
    split
    · next hnone =>
      rw [ih]
      simp [hnone]
    · next path hpath =>
      have hsets : ∃ w ∈ v :: vars, (variablePath? sectionName w.1).isSome = true :=
        ⟨v, List.mem_cons_self, by rw [hpath]; rfl⟩
      have hne := variablePath?_ne_nil hpath
      by_cases hset : CanBeSet fs key
      · rw [setInSection_of_canBeSet hset hne]
        exact iff_of_true ((ih _).2 fun _ => canBeSet_setAt fs key hne _) fun _ => hset
      · obtain ⟨fault, hfault⟩ := setInSection_of_not_canBeSet hset path (.str v.2)
        rw [hfault]
        exact iff_of_false (Option.some_ne_none fault) fun hall => hset (hall hsets)

theorem applySections_cons (vars : List (String × String)) (fs : Json.Fields)
    (s : String × String) (rest : List (String × String)) :
    (applySections vars fs (s :: rest)).fault =
      (applySection s.1 s.2 fs vars).fault.or
        (applySections vars (applySection s.1 s.2 fs vars).fields rest).fault := by
  obtain ⟨key, sectionName⟩ := s
  rw [applySections]
  cases hfault : (applySection key sectionName fs vars).fault with
  | none => rfl
  | some fault => exact hfault

/-- **When variables can set their values**: if no section that one of them sets is something other
than an object. -/
theorem fault_applyVariables_eq_none_iff (vars : List (String × String)) (fs : Json.Fields) :
    (applyVariables vars fs).fault = none ↔ ∀ s ∈ sections,
      (∃ v ∈ vars, (variablePath? s.2 v.1).isSome = true) → CanBeSet fs s.1 := by
  -- the variables of the first section do not touch the second
  have hcodegen : CanBeSet (applySection "global" "GLOBAL" fs vars).fields "codegen" ↔
      CanBeSet fs "codegen" := canBeSet_congr (get?_applySection fs vars (by decide))
  rw [applyVariables, sections, applySections_cons, applySections_cons, applySections,
    Option.or_none, Option.or_eq_none_iff, fault_applySection_eq_none_iff,
    fault_applySection_eq_none_iff, hcodegen, List.forall_mem_cons, List.forall_mem_singleton]

/-- A single variable sets its value. -/
theorem fields_applyVariables_singleton {s : String × String} (hs : s ∈ sections)
    (hpath : variablePath? s.2 name = some path) (hset : CanBeSet fs s.1) :
    (applyVariables [(name, value)] fs).fields = setAt fs s.1 path (.str value) := by
  have hother : ∀ t ∈ sections, t ≠ s → variablePath? t.2 name = none := by
    intro t ht hts
    by_contra hsome
    exact hts (eq_of_variablePath? ht hs (Option.isSome_iff_ne_none.2 hsome) (by rw [hpath]; rfl))
  have hsetIn := setInSection_of_canBeSet hset (variablePath?_ne_nil hpath) (.str value)
  simp only [sections, List.mem_cons, List.not_mem_nil, or_false] at hs
  rcases hs with rfl | rfl
  · have hnone := hother ("codegen", "CODEGEN") (by decide) (by decide)
    simp only [applyVariables, sections, applySections, applySection, hpath, hsetIn, hnone]
  · have hnone := hother ("global", "GLOBAL") (by decide) (by decide)
    simp only [applyVariables, sections, applySections, applySection, hpath, hsetIn, hnone]

end ofVariables

end Config
end Entigram
