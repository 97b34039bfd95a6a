import Entigram.Proofs.Config.Merge

/-!
# Notes in merged configurations

Merging skips the notes of the upper configuration on every level that it visits.  It does not visit
what it takes over as it is, and with that the notes inside come along.  Which values these are
depends on the lower configuration: an object is gone into where there is an object already, and
taken over where there is none (`TakesOver`).

So a configuration without notes has notes after merging just if one of the values that are taken
over has a note inside (`notes_taken_over_iff`): all else in the result was there before, or is an
object that merging went into.  Notes that stand on top of the upper configuration are always lost,
but not those further down (`note_taken_over`).
-/

set_option autoImplicit false

namespace Entigram
namespace Config

/-! ## Notes at any depth -/

/-- There is a note in the value, at some depth. -/
inductive HasNote : Json → Prop
  | key {fields : Json.Fields} {f : String × Json} (hf : f ∈ fields) (h : isNote f.1 = true) :
      HasNote (.obj fields)
  | field {fields : Json.Fields} {f : String × Json} (hf : f ∈ fields) (h : HasNote f.2) :
      HasNote (.obj fields)
  | item {items : List Json} {v : Json} (hv : v ∈ items) (h : HasNote v) : HasNote (.arr items)

/-- Merging takes a value over as it is. -/
inductive TakesOver : Json.Fields → Json.Fields → Json → Prop
  | whole {base upper : Json.Fields} {key : String} {v : Json} (hkey : (key, v) ∈ upper)
      (hnote : isNote key = false) (h : goesInto (Json.get? key base) v = false) :
      TakesOver base upper v
  | inside {base upper lower inner : Json.Fields} {key : String} {v : Json}
      (hkey : (key, .obj inner) ∈ upper) (hnote : isNote key = false)
      (hbase : Json.get? key base = some (.obj lower)) (h : TakesOver lower inner v) :
      TakesOver base upper v

section notes

variable {base upper : Json.Fields}

theorem hasNote_obj_iff {fields : Json.Fields} :
    HasNote (.obj fields) ↔ ∃ f ∈ fields, isNote f.1 = true ∨ HasNote f.2 := by
  constructor
  · intro h
    cases h with
    | key hf h => exact ⟨_, hf, .inl h⟩
    | field hf h => exact ⟨_, hf, .inr h⟩
  · rintro ⟨f, hf, h | h⟩
    · exact .key hf h
    · exact .field hf h

/-- **The fields of a merged configuration** are those of the lower one and what the given values
make of them. -/
theorem mem_mergeFields (h : (upper.map Prod.fst).Nodup) {f : String × Json}
    (hf : f ∈ (mergeFields base upper).1) : f ∈ base ∨ isNote f.1 = false ∧
      ∃ v, (f.1, v) ∈ upper ∧ f.2 = merged (Json.get? f.1 base) v := by
  induction upper generalizing base with
  | nil =>
    rw [mergeFields] at hf
    exact .inl hf
  | cons g rest ih =>
    obtain ⟨k, v⟩ := g
    rw [List.map_cons, List.nodup_cons] at h
    cases hnote : isNote k with
    | true =>
      rw [fst_mergeFields_of_note hnote] at hf
      rcases ih h.2 hf with hbase | ⟨hfnote, w, hw, heq⟩
      · exact .inl hbase
      · exact .inr ⟨hfnote, w, List.mem_cons_of_mem _ hw, heq⟩
    | false =>
      rw [fst_mergeFields_cons hnote] at hf
      rcases ih h.2 hf with hput | ⟨hfnote, w, hw, heq⟩
      · rcases Json.mem_put hput with rfl | hbase
        · exact .inr ⟨hnote, v, List.mem_cons_self, rfl⟩
        · exact .inl hbase
      · have hne : k ≠ f.1 := by
          rintro rfl
          exact h.1 (List.mem_map.2 ⟨_, hw, rfl⟩)
        rw [Json.get?_put, if_neg hne] at heq
        exact .inr ⟨hfnote, w, List.mem_cons_of_mem _ hw, heq⟩

/-- A note in a merged configuration was in a value that was taken over. -/
theorem exists_takesOver (h : Json.Keyed upper) (hbase : ¬HasNote (.obj base))
    (hnote : HasNote (.obj (mergeFields base upper).1)) :
    ∃ v, TakesOver base upper v ∧ HasNote v := by
  induction h generalizing base with
  | @intro fields nodup inner ih =>
    obtain ⟨f, hf, hinside⟩ := hasNote_obj_iff.1 hnote
    rcases mem_mergeFields nodup hf with hf | ⟨hfnote, v, hv, heq⟩
    · exact absurd (hasNote_obj_iff.2 ⟨f, hf, hinside⟩) hbase
    · rw [hfnote, heq, or_iff_right Bool.false_ne_true] at hinside
      rcases merged_cases (Json.get? f.1 base) v with ⟨hwhole, hmerged⟩ | ⟨l, u, hl, rfl, hmerged⟩
      · rw [hmerged] at hinside
        exact ⟨v, .whole hv hfnote hwhole, hinside⟩
      · have hlower : ¬HasNote (.obj l) :=
          fun hnote => hbase (.field (Json.mem_of_get? hl) hnote)
        rw [hmerged] at hinside
        obtain ⟨w, hw, hwnote⟩ := ih f.1 u ((Json.get?_eq_some_iff nodup).2 hv) hlower hinside
        exact ⟨w, .inside hv hfnote hl hw, hwnote⟩

/-- A note in a value that is taken over is in the merged configuration. -/
theorem hasNote_of_takesOver {v : Json} (htakes : TakesOver base upper v) (h : Json.Keyed upper)
    (hnote : HasNote v) : HasNote (.obj (mergeFields base upper).1) := by
  induction htakes with
  | @whole base upper key v hkey hkeynote hwhole =>
    have hget := get?_mergeFields_of_given base h.nodup hkeynote
      ((Json.get?_eq_some_iff h.nodup).2 hkey)
    rcases merged_cases (Json.get? key base) v with ⟨-, hmerged⟩ | ⟨l, u, hl, rfl, -⟩
    · rw [hmerged] at hget
      exact .field (Json.mem_of_get? hget) hnote
    · rw [hl] at hwhole
      cases hwhole
  | @inside base upper lower inner key v hkey hkeynote hbase _ ih =>
    have hinner := (Json.get?_eq_some_iff h.nodup).2 hkey
    have hget := get?_mergeFields_of_given base h.nodup hkeynote hinner
    rw [hbase, merged] at hget
    exact .field (Json.mem_of_get? hget) (ih (h.inner hinner) hnote)

/-- What is taken over stands in a field of the upper configuration that is no note. -/
theorem TakesOver.exists_field {v : Json} (h : TakesOver base upper v) (hnote : HasNote v) :
    ∃ f ∈ upper, isNote f.1 = false ∧ HasNote f.2 := by
  induction h with
  | whole hkey hkeynote => exact ⟨_, hkey, hkeynote, hnote⟩
  | inside hkey hkeynote _ _ ih =>
    obtain ⟨f, hf, -, hinside⟩ := ih hnote
    exact ⟨_, hkey, hkeynote, .field hf hinside⟩

end notes

/-! ## When notes are left -/

/-- **Which notes are left.**  Where the lower configuration has no notes, there are notes after
merging just if one of the values that are taken over as they are has a note inside.  So there are
none if the notes of the upper configuration all stand on its top level. -/
theorem notes_taken_over_iff (base upper : Json.Fields) (hbase : ¬HasNote (.obj base))
    (h : Json.Keyed upper) :
    (HasNote (.obj (merge base (.obj upper)).fields) ↔ ∃ v, TakesOver base upper v ∧ HasNote v) ∧
    ((∀ f ∈ upper, isNote f.1 = false → ¬HasNote f.2) →
      ¬HasNote (.obj (merge base (.obj upper)).fields)) := by
  have hiff : HasNote (.obj (merge base (.obj upper)).fields) ↔
      ∃ v, TakesOver base upper v ∧ HasNote v :=
    ⟨exists_takesOver h hbase, fun ⟨_, htakes, hnote⟩ => hasNote_of_takesOver htakes h hnote⟩
  refine ⟨hiff, fun htop hnote => ?_⟩
  obtain ⟨v, htakes, hinside⟩ := hiff.1 hnote
  obtain ⟨f, hf, hfnote, hfield⟩ := htakes.exists_field hinside
  exact htop f hf hfnote hfield

/-- A configuration with nothing set for single modules. -/
def plainLogging : Json.Fields := [("global", .obj [("logging", .obj [("modules", .obj [])])])]

/-- A configuration with notes on every level. -/
def annotated : Json.Fields :=
  [("_environment", .str "test"),
   ("global", .obj [("_by", .str "night shift"),
    ("logging", .obj [("modules", .obj [("_why", .str "noisy")]),
      ("console", .obj [("_why", .str "dark")])])])]

theorem keyed_annotated : Json.Keyed annotated :=
  .cons rfl nofun (.object rfl
    (.cons rfl nofun (.object rfl
      (.object rfl (.cons rfl nofun .nil) (.object rfl (.cons rfl nofun .nil) .nil)) .nil)) .nil)

theorem not_hasNote_plainLogging : ¬HasNote (.obj plainLogging) := by
  simp [plainLogging, hasNote_obj_iff, isNote]

/-- The note under `modules` is skipped, the one under `console` is not. -/
theorem notes_taken_over_iff_annotated :
    ¬HasNote (.obj plainLogging) ∧ Json.Keyed annotated ∧
    HasNote (.obj (merge plainLogging (.obj annotated)).fields) ∧
    (merge plainLogging (.obj annotated)).fields =
      [("global", .obj [("logging", .obj [("modules", .obj []),
        ("console", .obj [("_why", .str "dark")])])])] := by
  have htakes : TakesOver plainLogging annotated (.obj [("_why", .str "dark")]) :=
    .inside (.tail _ (.head _)) rfl rfl
      (.inside (.tail _ (.head _)) rfl rfl (.whole (.tail _ (.head _)) rfl rfl))
  have hnotes := (notes_taken_over_iff plainLogging annotated not_hasNote_plainLogging
    keyed_annotated).1
  exact ⟨not_hasNote_plainLogging, keyed_annotated,
    hnotes.2 ⟨_, htakes, .key (.head _) rfl⟩, rfl⟩

/-- **A note is left** in an object that the lower configuration does not have. -/
theorem note_taken_over : ¬HasNote (.obj []) ∧
    HasNote (.obj (merge [] (.obj [("global", .obj [("_by", .str "night shift")])])).fields) :=
  ⟨nofun, .field (.head _) (.key (.head _) rfl)⟩

end Config
end Entigram
