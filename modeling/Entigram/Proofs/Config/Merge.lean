import Entigram.Proofs.Config.Tree
import Entigram.Proofs.Json

/-!
# Merging configurations

One configuration is merged over another key by key, and what comes to stand under a key depends on
nothing but what stands there in the two (`get?_mergeFields_of_given`,
`get?_mergeFields_of_passed`): where both have an object the two are merged (`merged`), and
otherwise the upper value is taken as it is.

So paths can be followed down.  A value of the upper configuration is found again where no note is
on the way to it, and a value of the lower one where the way through the upper one ends early
(`PassesOver`).  Merging the same configuration again meets what it has put there itself, and that
gives nothing new (`mergeFields_mergeFields`); the induction is on the objects of the upper
configuration, and in each of them on the keys.  All of this needs that a key stands for one field
in the upper configuration: of two fields for one key only the first would be found, and the last
would win.  A configuration that comes from files and variables is like that, as
`Entigram.Proofs.Config.Keyed` shows.
-/

set_option autoImplicit false

namespace Entigram
namespace Config

/-! ## One key -/

/-- What a value becomes when another one is merged over it. -/
def merged (lower : Option Json) : Json → Json
  | .obj upper =>
    match lower with
    | some (.obj fields) => .obj (mergeFields fields upper).1
    | _ => .obj upper
  | value => value

/-- Merging goes into a value: there is an object to be merged over another one. -/
def goesInto (lower : Option Json) (upper : Json) : Bool :=
  lower.any Json.isObject && upper.isObject

/-- Where merging does not go into a value, the value is taken as it is. -/
theorem merged_cases (lower : Option Json) (upper : Json) :
    (goesInto lower upper = false ∧ merged lower upper = upper) ∨
      ∃ l u, lower = some (.obj l) ∧ upper = .obj u ∧
        merged lower upper = .obj (mergeFields l u).1 := by
  cases upper with
  | obj u =>
    cases lower with
    | none => exact .inl ⟨rfl, rfl⟩
    | some l =>
      cases l with
      | obj l => exact .inr ⟨l, u, rfl, rfl, rfl⟩
      | _ => exact .inl ⟨rfl, rfl⟩
  | _ => exact .inl ⟨Bool.and_false _, rfl⟩

section keys

variable {base upper : Json.Fields} {key : String} {value : Json}

theorem fst_mergeField (base : Json.Fields) (key : String) (value : Json) :
    (mergeField base key value).1 = Json.put key (merged (Json.get? key base) value) base := by
  cases value with
  | obj upper =>
    rw [mergeField]
    cases hkey : Json.get? key base with
    | none => rfl
    | some lower => cases lower <;> rfl
  | _ => rfl

theorem fst_mergeFields_of_note {rest : Json.Fields} (h : isNote key = true) :
    (mergeFields base ((key, value) :: rest)).1 = (mergeFields base rest).1 := by
  rw [mergeFields, if_pos h]

theorem fst_mergeFields_cons {rest : Json.Fields} (h : isNote key = false) :
    (mergeFields base ((key, value) :: rest)).1 =
      (mergeFields (Json.put key (merged (Json.get? key base) value) base) rest).1 := by
  rw [mergeFields, if_neg (by simp [h]), ← fst_mergeField]

/-- Under a key that is a note or not given, merging leaves what is there. -/
theorem get?_mergeFields_of_passed (base : Json.Fields)
    (h : isNote key = true ∨ Json.get? key upper = none) :
    Json.get? key (mergeFields base upper).1 = Json.get? key base := by
  induction upper generalizing base with
  | nil => rw [mergeFields]
  | cons f rest ih =>
    obtain ⟨k, v⟩ := f
    have hrest : isNote key = true ∨ Json.get? key rest = none := by
      refine h.imp_right fun hnone => ?_
      rw [Json.get?] at hnone
      split at hnone
      · cases hnone
      · exact hnone
    cases hnote : isNote k with
    | true => rw [fst_mergeFields_of_note hnote, ih base hrest]
    | false =>
      have hne : k ≠ key := by
        rintro rfl
        rw [hnote, Json.get?, if_pos rfl] at h
        simp at h
      rw [fst_mergeFields_cons hnote, ih _ hrest, Json.get?_put, if_neg hne]

/-- **Under a key that is given**, what is there becomes what the given value makes of it. -/
theorem get?_mergeFields_of_given (base : Json.Fields) (h : (upper.map Prod.fst).Nodup)
    (hnote : isNote key = false) (hkey : Json.get? key upper = some value) :
    Json.get? key (mergeFields base upper).1 = some (merged (Json.get? key base) value) := by
  induction upper generalizing base with
  | nil => cases hkey
  | cons f rest ih =>
    obtain ⟨k, v⟩ := f
    rw [List.map_cons, List.nodup_cons] at h
    rw [Json.get?] at hkey
    split at hkey
    · next hk =>
      -- no later field is for this key
      subst hk
      obtain rfl := Option.some_inj.1 hkey
      rw [fst_mergeFields_cons hnote,
        get?_mergeFields_of_passed _ (.inr (Json.get?_eq_none_iff.2 h.1)), Json.get?_put,
        if_pos rfl]
    · next hk =>
      cases hnotek : isNote k with
      | true => rw [fst_mergeFields_of_note hnotek, ih base h.2 hkey]
      | false => rw [fst_mergeFields_cons hnotek, ih _ h.2 hkey, Json.get?_put, if_neg hk]

end keys

/-! ## Paths -/

/-- Following a path through fields, one comes to a key that is a note or not there, and to objects
only before that. -/
inductive PassesOver : Json.Fields → List String → Prop
  | note {fields : Json.Fields} {key : String} {path : List String} (h : isNote key = true) :
      PassesOver fields (key :: path)
  | missing {fields : Json.Fields} {key : String} {path : List String}
      (h : Json.get? key fields = none) : PassesOver fields (key :: path)
  | deeper {fields inner : Json.Fields} {key : String} {path : List String}
      (hkey : Json.get? key fields = some (.obj inner)) (h : PassesOver inner path) :
      PassesOver fields (key :: path)

section paths

variable {base upper : Json.Fields} {path : List String} {v : Json}

theorem read?_of_get?_eq {fs fs' : Json.Fields} {key : String}
    (h : Json.get? key fs = Json.get? key fs') (path : List String) :
    read? (.obj fs) (key :: path) = read? (.obj fs') (key :: path) := by
  rw [read?_obj_cons, read?_obj_cons, h]

/-- Through a value that is no object no path goes on. -/
theorem exists_obj_of_read? {w : Json} (hpath : path ≠ []) (h : read? w path = some v) :
    ∃ fields, w = .obj fields := by
  obtain ⟨key, rest, rfl⟩ := List.exists_cons_of_ne_nil hpath
  cases w with
  | obj fields => exact ⟨fields, rfl⟩
  | _ => cases h

/-- **Values of the upper configuration.**  They are found again if no note is on the way. -/
theorem read?_mergeFields_of_given (base : Json.Fields) (h : Json.Keyed upper)
    (hnotes : ∀ key ∈ path, isNote key = false) (hread : read? (.obj upper) path = some v)
    (hv : v.isObject = false) : read? (.obj (mergeFields base upper).1) path = some v := by
  induction path generalizing base upper with
  | nil =>
    rw [read?, Option.some_inj] at hread
    subst hread
    cases hv
  | cons key rest ih =>
    obtain ⟨hnote, hrest⟩ := List.forall_mem_cons.1 hnotes
    rw [read?_obj_cons, Option.bind_eq_some_iff] at hread
    obtain ⟨w, hw, hread⟩ := hread
    rw [read?_obj_cons, get?_mergeFields_of_given base h.nodup hnote hw, Option.bind_some]
    rcases merged_cases (Json.get? key base) w with ⟨-, heq⟩ | ⟨l, u, -, rfl, heq⟩
    · rw [heq, hread]
    · rw [heq]
      exact ih l (h.inner hw) hrest hread

/-- **Values of the lower configuration.**  They are found again where the upper one passes over
them. -/
theorem read?_mergeFields_of_passesOver (base : Json.Fields) (h : Json.Keyed upper)
    (hpasses : PassesOver upper path) (hread : read? (.obj base) path = some v) :
    read? (.obj (mergeFields base upper).1) path = some v := by
  induction hpasses generalizing base with
  | note hnote => rw [read?_of_get?_eq (get?_mergeFields_of_passed base (.inl hnote)), hread]
  | missing hnone => rw [read?_of_get?_eq (get?_mergeFields_of_passed base (.inr hnone)), hread]
  | @deeper upper inner key path hkey hpasses ih =>
    cases hnote : isNote key with
    | true => rw [read?_of_get?_eq (get?_mergeFields_of_passed base (.inl hnote)), hread]
    | false =>
      have hpath : path ≠ [] := by
        rintro rfl
        cases hpasses
      rw [read?_obj_cons, Option.bind_eq_some_iff] at hread
      obtain ⟨w, hw, hread⟩ := hread
      obtain ⟨l, rfl⟩ := exists_obj_of_read? hpath hread
      rw [read?_obj_cons, get?_mergeFields_of_given base h.nodup hnote hkey, hw, Option.bind_some]
      exact ih l (h.inner hkey) hread

end paths

/-! ## Merging again -/

section again

variable {base upper : Json.Fields}

/-- Where each given value is what it would make of what is there, merging changes nothing. -/
theorem mergeFields_eq_self (h : ∀ f ∈ upper, isNote f.1 = false →
      Json.get? f.1 base = some (merged (Json.get? f.1 base) f.2)) :
    (mergeFields base upper).1 = base := by
  induction upper with
  | nil => rw [mergeFields]
  | cons f rest ih =>
    obtain ⟨hf, hrest⟩ := List.forall_mem_cons.1 h
    cases hnote : isNote f.1 with
    | true => rw [fst_mergeFields_of_note hnote, ih hrest]
    | false => rw [fst_mergeFields_cons hnote, Json.put_of_get? (hf hnote), ih hrest]

/-- A configuration merged over itself. -/
theorem mergeFields_self (h : Json.Keyed upper) : (mergeFields upper upper).1 = upper := by
  induction h with
  | @intro fields nodup inner ih =>
    refine mergeFields_eq_self fun f hf _ => ?_
    have hkey : Json.get? f.1 fields = some f.2 := (Json.get?_eq_some_iff nodup).2 hf
    rw [hkey, Option.some_inj]
    rcases merged_cases (some f.2) f.2 with ⟨-, heq⟩ | ⟨l, u, hl, hu, heq⟩
    · exact heq.symm
    · rw [hu] at hl hkey
      obtain rfl := Json.obj.inj (Option.some_inj.1 hl)
      rw [heq, hu, ih f.1 _ hkey]

/-- A value that was taken as it is takes itself again. -/
theorem merged_self {v : Json} (h : ∀ u, v = .obj u → Json.Keyed u) : merged (some v) v = v := by
  rcases merged_cases (some v) v with ⟨-, heq⟩ | ⟨l, u, hl, rfl, heq⟩
  · exact heq
  · obtain rfl := Json.obj.inj (Option.some_inj.1 hl)
    rw [heq, mergeFields_self (h _ rfl)]

/-- **Merging a configuration once more changes nothing.** -/
theorem mergeFields_mergeFields (base : Json.Fields) (h : Json.Keyed upper) :
    (mergeFields (mergeFields base upper).1 upper).1 = (mergeFields base upper).1 := by
  induction h generalizing base with
  | @intro fields nodup inner ih =>
    refine mergeFields_eq_self fun f hf hnote => ?_
    have hkey : Json.get? f.1 fields = some f.2 := (Json.get?_eq_some_iff nodup).2 hf
    rw [get?_mergeFields_of_given base nodup hnote hkey, Option.some_inj]
    rcases merged_cases (Json.get? f.1 base) f.2 with ⟨-, heq⟩ | ⟨l, u, -, hu, heq⟩
    · rw [heq]
      refine (merged_self fun u hu => ?_).symm
      rw [hu] at hkey
      exact inner f.1 u hkey
    · rw [hu] at hkey
      rw [heq, hu, merged, ih f.1 u hkey]

end again

/-! ## The law of merging -/

/-- **One configuration over another.**  Merging ends without a fault.  A value of the upper
configuration that is no object is found at its path afterwards if no key on the way is a note.  A
value of the lower one is found at its path if the upper one passes over it.  Merging the upper one
again changes nothing. -/
theorem merge_layered (base upper : Json.Fields) (h : Json.Keyed upper) :
    (merge base (.obj upper)).fault = none ∧
    (∀ path v, (∀ key ∈ path, isNote key = false) → read? (.obj upper) path = some v →
      v.isObject = false → read? (.obj (merge base (.obj upper)).fields) path = some v) ∧
    (∀ path v, PassesOver upper path → read? (.obj base) path = some v →
      read? (.obj (merge base (.obj upper)).fields) path = some v) ∧
    (merge (merge base (.obj upper)).fields (.obj upper)).fields =
      (merge base (.obj upper)).fields :=
  ⟨rfl, fun _ _ hnotes hread hv => read?_mergeFields_of_given base h hnotes hread hv,
    fun _ _ hpasses hread => read?_mergeFields_of_passesOver base h hpasses hread,
    mergeFields_mergeFields base h⟩

/-- A configuration with a level, and with settings for the console. -/
def stall : Json.Fields :=
  [("global", .obj [("log_level", .str "info"),
    ("logging", .obj [("console", .obj [("format", .str "simple"), ("_seen", .int 1)])])]),
   ("codegen", .str "later")]

/-- A configuration that changes some of them, with notes on several levels. -/
def stallTonight : Json.Fields :=
  [("_environment", .str "tonight"),
   ("global", .obj [("log_level", .obj [("_was", .str "info")]),
    ("logging", .obj [("_by", .null), ("console", .obj [("show_time", .bool false)])])]),
   ("codegen", .obj [("namespace", .str "Stall"), ("_draft", .bool true)])]

theorem keyed_stallTonight : Json.Keyed stallTonight :=
  .cons rfl nofun (.object rfl
    (.object rfl (.cons rfl nofun .nil) (.object rfl
      (.cons rfl nofun (.object rfl (.cons rfl nofun .nil) .nil)) .nil))
    (.object rfl (.cons rfl nofun (.cons rfl nofun .nil)) .nil))

theorem merge_layered_stall : Json.Keyed stallTonight ∧
    (∀ key ∈ ["codegen", "namespace"], isNote key = false) ∧
    read? (.obj stallTonight) ["codegen", "namespace"] = some (.str "Stall") ∧
    read? (.obj (merge stall (.obj stallTonight)).fields) ["codegen", "namespace"] =
      some (.str "Stall") ∧
    PassesOver stallTonight ["global", "logging", "console", "_seen"] ∧
    read? (.obj stall) ["global", "logging", "console", "_seen"] = some (.int 1) ∧
    read? (.obj (merge stall (.obj stallTonight)).fields)
      ["global", "logging", "console", "_seen"] = some (.int 1) ∧
    (merge (merge stall (.obj stallTonight)).fields (.obj stallTonight)).fields =
      (merge stall (.obj stallTonight)).fields := by
  obtain ⟨-, hgiven, hpassed, hagain⟩ := merge_layered stall stallTonight keyed_stallTonight
  have hnotes : ∀ key ∈ ["codegen", "namespace"], isNote key = false := by decide
  have hpasses : PassesOver stallTonight ["global", "logging", "console", "_seen"] :=
    .deeper rfl (.deeper rfl (.deeper rfl (.note rfl)))
  exact ⟨keyed_stallTonight, hnotes, rfl, hgiven _ _ hnotes rfl rfl, hpasses, rfl,
    hpassed _ _ hpasses rfl, hagain⟩

end Config
end Entigram
