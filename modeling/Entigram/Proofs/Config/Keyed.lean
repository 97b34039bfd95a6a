import Entigram.Proofs.Attempt
import Entigram.Proofs.Config.Failure
import Entigram.Proofs.Config.Merge

/-!
# Keys of loaded configurations

In a configuration every key stands for one field, in every object of it.  A file may give a key
twice, but a reader that puts fields together by giving values to keys lets the later value take the
place of the earlier one, as the one does that the program comes with (`readsKeyed_standard`).
Merging and setting give values to keys as well.  So it holds of what such a reader reads and is
kept by every step after that (`keyed_mergeFields`, `keyed_setAt`), and whatever layers of a
configuration are put together, the keys stay single (`keyed_layers`).

So in the settings no module has two levels (`nodup_modules`).
-/

set_option autoImplicit false

namespace Entigram

/-! ## What files hold -/

namespace Yaml

/-- A scalar is no object. -/
theorem Node.isObject_scalarValue {text : String} {isPlain : Bool} {v : Json}
    (h : scalarValue text isPlain = .ok v) : v.isObject = false := by
  have hconstants : ∀ c ∈ Plain.constants, c.2.isObject = false := by decide
  rw [scalarValue] at h
  split at h
  · rw [Plain.value] at h
    split at h
    · next c hc =>
      obtain ⟨l, l', hl, -⟩ := List.lookup_eq_some_iff.1 hc
      cases h
      exact hconstants (text, v) (by rw [hl]; simp)
    · dsimp only at h
      split at h
      · cases h
        rfl
      · obtain ⟨n, -, rfl⟩ := Attempt.map_eq_ok_iff.1 h
        rfl
      · cases h
        rfl
  · cases h
    rfl

namespace Node

mutual

/-- **What a file holds** has single keys. -/
theorem keyed_value : ∀ (n : Node) {fields : Json.Fields}, n.value = .ok (.obj fields) →
    Json.Keyed fields
  | scalar text isPlain, fields, h => by
    rw [value] at h
    cases isObject_scalarValue h
  | list items, fields, h => by
    rw [value, Attempt.bind_eq_ok_iff] at h
    obtain ⟨_, -, hvalue⟩ := h
    cases hvalue
  | map entries, fields, h => by
    rw [value, Attempt.bind_eq_ok_iff] at h
    obtain ⟨_, hentries, hvalue⟩ := h
    cases hvalue
    exact keyed_fields entries .nil hentries

/-- Each entry of a mapping gives its value to its key. -/
theorem keyed_fields : ∀ (entries : List (Node × Node)) {before fields : Json.Fields},
    Json.Keyed before → Node.fields before entries = .ok fields → Json.Keyed fields
  | [], before, fields, hbefore, h => by
    rw [Node.fields] at h
    cases h
    exact hbefore
  | (k, v) :: rest, before, fields, hbefore, h => by
    rw [Node.fields, Attempt.bind_eq_ok_iff] at h
    obtain ⟨key, -, h⟩ := h
    rw [Attempt.bind_eq_ok_iff] at h
    obtain ⟨w, hw, h⟩ := h
    refine keyed_fields rest (hbefore.put fun below hbelow => ?_) h
    rw [hbelow] at hw
    exact keyed_value v hw

end

end Node
end Yaml

namespace Config

/-- What a reader of configuration files reads has single keys. -/
def ReadsKeyed (read : String → Except Complaint Json) : Prop :=
  ∀ text fields, read text = .ok (.obj fields) → Json.Keyed fields

/-- The reader that the program comes with is one of these. -/
theorem readsKeyed_standard (address : Template.Value → String) :
    ReadsKeyed (Libraries.standard address).readConfiguration := by
  intro text fields h
  obtain hread := Attempt.mapError_eq_ok_iff.1 h
  rw [Json.ofYaml, Attempt.bind_eq_ok_iff] at hread
  obtain ⟨node?, -, hnode⟩ := hread
  cases node? with
  | none => cases hnode
  | some node => exact node.keyed_value hnode

/-- What is read from a file has single keys. -/
theorem keyed_readValue {w : World} (hreader : ReadsKeyed w.libraries.readConfiguration)
    {path : Path} {fields : Json.Fields} (h : readValue w path = .ok (.obj fields)) :
    Json.Keyed fields := by
  rw [readValue] at h
  split at h
  · cases h
  · exact hreader _ fields (Attempt.mapError_eq_ok_iff.1 h)

/-! ## What is made of it -/

section steps

variable {fs fs' base upper : Json.Fields} {key sectionName : String} {value : Json}

/-- This needs nothing of the upper layer: of two fields for one key the last wins. -/
theorem nodup_mergeFields (upper : Json.Fields) (h : (base.map Prod.fst).Nodup) :
    ((mergeFields base upper).1.map Prod.fst).Nodup := by
  induction upper generalizing base with
  | nil => rwa [mergeFields]
  | cons f rest ih =>
    cases hnote : isNote f.1 with
    | true =>
      rw [fst_mergeFields_of_note hnote]
      exact ih h
    | false =>
      rw [fst_mergeFields_cons hnote]
      exact ih (Json.nodup_put h)

/-- **Merging keeps keys single.** -/
theorem keyed_mergeFields (hbase : Json.Keyed base) (h : Json.Keyed upper) :
    Json.Keyed (mergeFields base upper).1 := by
  induction h generalizing base with
  | @intro fields nodup inner ih =>
    refine .intro (nodup_mergeFields fields hbase.nodup) fun key below hbelow => ?_
    by_cases hpassed : isNote key = true ∨ Json.get? key fields = none
    · rw [get?_mergeFields_of_passed base hpassed] at hbelow
      exact hbase.inner hbelow
    · rw [not_or, Bool.not_eq_true] at hpassed
      obtain ⟨v, hv⟩ := Option.ne_none_iff_exists'.1 hpassed.2
      rw [get?_mergeFields_of_given base nodup hpassed.1 hv, Option.some_inj] at hbelow
      rcases merged_cases (Json.get? key base) v with ⟨-, heq⟩ | ⟨l, u, hl, rfl, heq⟩
      · rw [heq] at hbelow
        subst hbelow
        exact inner key below hv
      · rw [heq, Json.obj.injEq] at hbelow
        subst hbelow
        exact ih key u hv (hbase.inner hl)

theorem keyed_fieldsUnder (h : Json.Keyed fs) (key : String) : Json.Keyed (fieldsUnder key fs) := by
  rw [fieldsUnder]
  split
  · next hkey => exact h.inner hkey
  · exact .nil

/-- **Setting a value keeps keys single.** -/
theorem keyed_setAt (h : Json.Keyed fs) (key : String) (path : List String)
    (hvalue : ∀ below, value = .obj below → Json.Keyed below) :
    Json.Keyed (setAt fs key path value) := by
  induction path generalizing fs key with
  | nil =>
    rw [setAt]
    exact h.put hvalue
  | cons next rest ih =>
    rw [setAt]
    refine h.put fun below hbelow => ?_
    cases hbelow
    exact ih (keyed_fieldsUnder h key) next

theorem keyed_applySection (h : Json.Keyed fs) (vars : List (String × String)) :
    Json.Keyed (applySection key sectionName fs vars).fields := by
  induction vars generalizing fs with
  | nil => exact h
  | cons v vars ih =>
    rw [applySection]
    split
    · exact ih h
    · next path hpath =>
      by_cases hset : CanBeSet fs key
      · rw [setInSection_of_canBeSet hset (variablePath?_ne_nil hpath)]
        have htext : ∀ below, Json.str v.2 = .obj below → Json.Keyed below := by
          intro below hbelow
          cases hbelow
        exact ih (keyed_setAt h key path htext)
      · obtain ⟨fault, hfault⟩ := setInSection_of_not_canBeSet hset path (.str v.2)
        rw [hfault]
        exact h

/-- **Variables keep keys single.** -/
theorem keyed_applySections (h : Json.Keyed fs) (vars ss : List (String × String)) :
    Json.Keyed (applySections vars fs ss).fields := by
  induction ss generalizing fs with
  | nil => exact h
  | cons s ss ih =>
    have hfirst : Json.Keyed (applySection s.1 s.2 fs vars).fields := keyed_applySection h vars
    rw [applySections]
    split
    · exact hfirst
    · exact ih hfirst

end steps

/-! ## Layers -/

/-- What comes of a step is an object with single keys, or no object. -/
def GivesKeyed (x : Step Json) : Prop := ∀ fields, x.2 = .ok (.obj fields) → Json.Keyed fields

/-- Two steps succeed where both do. -/
theorem Step.andThen_eq_ok {α β : Type} {x : Step α} {f : α → Step β} {b : β}
    (h : (x.andThen f).2 = .ok b) : ∃ a, x.2 = .ok a ∧ (f a).2 = .ok b := by
  obtain ⟨log, result⟩ := x
  cases result with
  | error e => cases h
  | ok a => exact ⟨a, rfl, h⟩

/-- A change that is told to the end and made gives its fields. -/
theorem Change.eq_fields_of_step {listener : Listener} {c : Change} {v : Json}
    (h : (c.step listener).2 = .ok v) : v = .obj c.fields := by
  by_cases htakes : ∀ text ∈ c.log, listener.Takes text
  · rw [(Tells.change c).eq_of_takes htakes] at h
    split at h
    · cases h
    · exact (Except.ok.inj h).symm
  · obtain ⟨fault, hfault⟩ := (Tells.change c).refused (by simpa using htakes)
    rw [hfault] at h
    cases h

section layers

variable {w : World} {request : LoadRequest} {listener : Listener}

theorem keyed_loadBase (hreader : ReadsKeyed w.libraries.readConfiguration) :
    GivesKeyed (loadBase w request) := by
  intro fields h
  rw [loadBase] at h
  split at h
  · cases h
  · obtain ⟨-, -, h⟩ := Step.andThen_eq_ok h
    cases h
    exact .nil
  · obtain ⟨-, -, h⟩ := Step.andThen_eq_ok h
    obtain ⟨v, hread, hv⟩ := Attempt.map_eq_ok_iff.1 h
    split at hv
    · cases hv
      exact .nil
    · subst hv
      exact keyed_readValue hreader hread

theorem keyed_loadEnvironment (hreader : ReadsKeyed w.libraries.readConfiguration)
    {upper : Json.Fields} (h : (loadEnvironment w request).2 = .ok (some (.obj upper))) :
    Json.Keyed upper := by
  unfold loadEnvironment at h
  split at h
  · cases h
  · cases h
  · obtain ⟨-, -, h⟩ := Step.andThen_eq_ok h
    obtain ⟨v, hread, hv⟩ := Attempt.map_eq_ok_iff.1 h
    split at hv
    · cases hv
    · rw [Option.some_inj.1 hv] at hread
      exact keyed_readValue hreader hread

theorem keyed_mergeLayers {base upper : Json}
    (hbase : ∀ fields, base = .obj fields → Json.Keyed fields)
    (hupper : ∀ fields, upper = .obj fields → Json.Keyed fields) :
    GivesKeyed (mergeLayers listener base upper) := by
  intro fields h
  unfold mergeLayers at h
  split at h
  · next lower =>
    obtain rfl := Json.obj.inj (Change.eq_fields_of_step h)
    cases upper with
    | obj upper => exact keyed_mergeFields (hbase lower rfl) (hupper upper rfl)
    | _ => exact hbase lower rfl
  · dsimp only at h
    split at h
    · exact hbase fields (Except.ok.inj h)
    · cases h
  · cases h

theorem keyed_overrideLayer {base : Json} (vars : List (String × String))
    (hbase : ∀ fields, base = .obj fields → Json.Keyed fields) :
    GivesKeyed (overrideLayer listener vars base) := by
  intro fields h
  unfold overrideLayer at h
  split at h
  · next lower =>
    obtain rfl := Json.obj.inj (Change.eq_fields_of_step h)
    exact keyed_applySections (hbase lower rfl) vars sections
  · dsimp only at h
    split at h
    · cases h
    · exact hbase fields (Except.ok.inj h)

/-- **In a configuration keys are single**, from whatever files and variables it comes. -/
theorem keyed_layers (hreader : ReadsKeyed w.libraries.readConfiguration) (request : LoadRequest) :
    GivesKeyed (layers w request) := by
  intro fields h
  obtain ⟨base, hbase, h⟩ := Step.andThen_eq_ok h
  obtain ⟨upper, hupper, h⟩ := Step.andThen_eq_ok h
  obtain ⟨both, hboth, h⟩ := Step.andThen_eq_ok h
  have hbaseKeyed : ∀ fields, base = .obj fields → Json.Keyed fields := by
    rintro lower rfl
    exact keyed_loadBase hreader lower hbase
  refine keyed_overrideLayer w.vars (fun lower hlower => ?_) fields h
  subst hlower
  cases upper with
  | none => exact hbaseKeyed lower (Except.ok.inj hboth)
  | some u =>
    refine keyed_mergeLayers hbaseKeyed (fun inner hinner => ?_) lower hboth
    subst hinner
    exact keyed_loadEnvironment hreader hupper

end layers

/-! ## What settings say of modules -/

section modules

variable {fs : Json.Fields}

/-- A group that is given is checked with its fields. -/
theorem fields_of_group {α : Type} {name key : String} {check : Json.Fields → Checked α}
    {default a : α} (hfs : Json.Keyed fs)
    (h : field fs key default (group name check) = .ok a) (hdefault : check [] = .ok default) :
    ∃ inner, Json.Keyed inner ∧ check inner = .ok a := by
  rcases field_eq_ok_iff.1 h with ⟨-, rfl⟩ | ⟨v, hv, ha⟩
  · exact ⟨[], .nil, hdefault⟩
  · obtain ⟨inner, rfl, hinner⟩ := group_eq_ok_iff.1 ha
    exact ⟨inner, hfs.inner hv, hinner⟩

/-- The modules with levels are the keys of the dictionary. -/
theorem map_fst_texts {named : List (String × String)} (h : texts fs = .ok named) :
    named.map Prod.fst = fs.map Prod.fst := by
  induction fs generalizing named with
  | nil =>
    cases h
    rfl
  | cons f fs ih =>
    obtain ⟨k, v⟩ := f
    rw [texts, Checked.seq_eq_ok_iff] at h
    obtain ⟨_, rest, hmap, hrest, rfl⟩ := h
    obtain ⟨s, -, rfl⟩ := Checked.map_eq_ok_iff.1 hmap
    rw [List.map_cons, List.map_cons, ih hrest]

theorem map_fst_levels {named : List (String × String)} {ms : List (String × Log.Level)}
    (h : levels named = .ok ms) : ms.map Prod.fst = named.map Prod.fst := by
  induction named generalizing ms with
  | nil =>
    cases h
    rfl
  | cons p named ih =>
    rw [levels] at h
    split at h
    · obtain ⟨rest, hrest, rfl⟩ := Checked.map_eq_ok_iff.1 h
      rw [List.map_cons, List.map_cons, ih hrest]
    · cases h

/-- **No module has two levels** in settings that were accepted. -/
theorem nodup_modules {s : Settings} (hfs : Json.Keyed fs) (h : settings fs = .ok s) :
    (s.general.logging.modules.map Prod.fst).Nodup := by
  obtain ⟨hgeneral, -⟩ := settings_eq_ok_iff.1 h
  obtain ⟨inner, hinner, hgeneral⟩ := fields_of_group hfs hgeneral rfl
  obtain ⟨-, hlogging⟩ := general_eq_ok_iff.1 hgeneral
  obtain ⟨inner, hinner, hlogging⟩ := fields_of_group hinner hlogging rfl
  obtain ⟨-, -, hmodules⟩ := logging_eq_ok_iff.1 hlogging
  rcases field_eq_ok_iff.1 hmodules with ⟨-, hnone⟩ | ⟨v, hv, hmodules⟩
  · rw [← hnone]
    exact List.nodup_nil
  · cases v with
    | obj below =>
      obtain ⟨named, hnamed, hms⟩ := Checked.andThen_eq_ok_iff.1 hmodules
      rw [map_fst_levels hms, map_fst_texts hnamed]
      exact (hinner.inner hv).nodup
    | _ => cases hmodules

end modules

end Config
end Entigram
