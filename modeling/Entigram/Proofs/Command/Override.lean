import Entigram.Command.Generate
import Entigram.Proofs.Config.Written
import Entigram.Proofs.Json
import Entigram.Standard

/-!
# Options in the place of settings

The options of `generate` are settled in three steps: the configured settings are written down,
what the options say takes the place of some of it, and the result is checked like any
configuration.  All settings are checked then, also those that no option is about, and these were
accepted before in another form.

They are accepted again, and as what they were, because checks read their own results back
(`Config.Rereads`).  So the whole comes to a check of each option by itself: the check of its
setting accepts or refuses it, and nothing else is changed (`override_eq_ok_iff`,
`codegenSettings_exact`).
-/

set_option autoImplicit false

namespace Entigram
namespace Command

open Config

section field

variable {α : Type} {check : Json → Checked α} {default configured a : α} {written : α → Json}
  {fs fs' : Json.Fields} {key : String} {given : Option String}

/-! ## Single options -/

/-- The option is given, and the check of its setting refuses it. -/
def Refuses (check : Json → Checked α) (given : Option String) : Prop :=
  ∃ s found, given = some s ∧ check (.str s) = .issues found

/-- The setting with the option: what its check reads in the option, or as it was configured if the
option is not given. -/
def Gives (check : Json → Checked α) (given : Option String) (configured a : α) : Prop :=
  match given with
  | none => a = configured
  | some s => check (.str s) = .ok a

/-- A setting with an option that is not refused. -/
theorem exists_gives_iff (hcheck : ∀ v, check v ≠ .notAPath) (given : Option String)
    (configured : α) : (∃ a, Gives check given configured a) ↔ ¬Refuses check given := by
  cases given with
  | none => exact iff_of_true ⟨configured, rfl⟩ fun ⟨_, _, hsome, _⟩ => nomatch hsome
  | some s =>
    have hrefuses : Refuses check (some s) ↔ ∃ found, check (.str s) = .issues found := by
      simp [Refuses]
    rw [hrefuses]
    show (∃ a, check (.str s) = .ok a) ↔ _
    cases hs : check (.str s) with
    | ok a => exact iff_of_true ⟨a, rfl⟩ fun ⟨_, hissues⟩ => nomatch hissues
    | issues found => exact iff_of_false (fun ⟨_, hok⟩ => nomatch hok) (not_not_intro ⟨found, rfl⟩)
    | notAPath => exact absurd hs (hcheck _)

/-- A field of the settings that are written down, with what an option says in its place. -/
theorem field_eq_ok_iff_gives (hreads : Rereads check default written)
    (hfield : field fs key default check = .ok configured)
    (hget : Json.get? key fs' = (given.map Json.str).or (some (written configured))) :
    field fs' key default check = .ok a ↔ Gives check given configured a := by
  cases given with
  | none =>
    rw [hreads.field_eq hfield hget, Checked.ok.injEq]
    exact eq_comm
  | some s =>
    rw [field, show Json.get? key fs' = some (.str s) from hget, Checked.under_eq_ok_iff]
    rfl

end field

/-! ## All options -/

variable {fs : Json.Fields} {p : Parsed} {configured c : Codegen}

/-- Some option is refused. -/
def IsRefused (p : Parsed) : Prop :=
  Refuses contextName (p.value? "context-name") ∨ Refuses declaredNamespace (p.value? "namespace") ∨
    Refuses target (p.value? "target")

/-- The configured settings, and what the options say in the place of three of them. -/
structure IsOverridden (p : Parsed) (configured c : Codegen) : Prop where
  target : Gives Config.target (p.value? "target") configured.target c.target
  contextName :
    Gives Config.contextName (p.value? "context-name") configured.contextName c.contextName
  declaredNamespace : Gives Config.declaredNamespace (p.value? "namespace")
    configured.declaredNamespace c.declaredNamespace
  outputDir : c.outputDir = configured.outputDir
  entitiesFilename : c.entitiesFilename = configured.entitiesFilename
  contextFilename : c.contextFilename = configured.contextFilename

/-- Settings with these options in them are there unless one is refused. -/
theorem exists_isOverridden_iff (p : Parsed) (configured : Codegen) :
    (∃ c, IsOverridden p configured c) ↔ ¬IsRefused p := by
  rw [IsRefused, not_or, not_or,
    ← exists_gives_iff contextName_ne_notAPath _ configured.contextName,
    ← exists_gives_iff declaredNamespace_ne_notAPath _ configured.declaredNamespace,
    ← exists_gives_iff target_ne_notAPath _ configured.target]
  constructor
  · rintro ⟨c, h⟩
    exact ⟨⟨_, h.contextName⟩, ⟨_, h.declaredNamespace⟩, ⟨_, h.target⟩⟩
  · rintro ⟨⟨name, hname⟩, ⟨space, hspace⟩, ⟨t, ht⟩⟩
    exact ⟨{ configured with target := t, contextName := name, declaredNamespace := space },
      ht, hname, hspace, rfl, rfl, rfl⟩

theorem nodup_overrides (p : Parsed) : ((overrides p).map Prod.fst).Nodup := by
  rw [overrides]
  cases p.value? "context-name" <;> cases p.value? "namespace" <;> cases p.value? "target" <;>
    simp

/-- What stands under a key when the options are in their places. -/
theorem get?_overridden (p : Parsed) (c : Codegen) (key : String) :
    Json.get? key ((overrides p).foldl (fun fs f => Json.put f.1 f.2 fs) c.fields) =
      (Json.get? key (overrides p)).or (Json.get? key c.fields) :=
  Json.get?_foldl_put (nodup_overrides p) c.fields

theorem get?_overrides (p : Parsed) :
    Json.get? "context_name" (overrides p) = (p.value? "context-name").map Json.str ∧
    Json.get? "namespace" (overrides p) = (p.value? "namespace").map Json.str ∧
    Json.get? "target" (overrides p) = (p.value? "target").map Json.str ∧
    Json.get? "output_dir" (overrides p) = none ∧
    Json.get? "entities_filename" (overrides p) = none ∧
    Json.get? "context_filename" (overrides p) = none := by
  rw [overrides]
  cases p.value? "context-name" <;> cases p.value? "namespace" <;> cases p.value? "target" <;>
    simp [Json.get?]

/-- **What the options make of the settings.**  The check of all settings accepts just what the
checks of the options do. -/
theorem override_eq_ok_iff (h : codegen fs = .ok configured) :
    configured.override (overrides p) = .ok c ↔ IsOverridden p configured c := by
  obtain ⟨htarget, hcontext, hnamespace, hdir, hentities, hmapping⟩ := codegen_eq_ok_iff.1 h
  obtain ⟨hcontext', hnamespace', htarget', hdir', hentities', hmapping'⟩ := get?_overrides p
  rw [Codegen.override, codegen_eq_ok_iff,
    field_eq_ok_iff_gives rereads_target htarget (by rw [get?_overridden, htarget']; rfl),
    field_eq_ok_iff_gives rereads_contextName hcontext (by rw [get?_overridden, hcontext']; rfl),
    field_eq_ok_iff_gives rereads_declaredNamespace hnamespace
      (by rw [get?_overridden, hnamespace']; rfl),
    rereads_outputDir.field_eq hdir (by rw [get?_overridden, hdir']; rfl),
    (rereads_text _).field_eq hentities (by rw [get?_overridden, hentities']; rfl),
    (rereads_text _).field_eq hmapping (by rw [get?_overridden, hmapping']; rfl)]
  simp only [Checked.ok.injEq]
  constructor
  · rintro ⟨ht, hname, hspace, hdir, hentities, hmapping⟩
    exact ⟨ht, hname, hspace, hdir.symm, hentities.symm, hmapping.symm⟩
  · rintro ⟨ht, hname, hspace, hdir, hentities, hmapping⟩
    exact ⟨ht, hname, hspace, hdir.symm, hentities.symm, hmapping.symm⟩

/-- The check does not break off, because the output directory is one. -/
theorem override_ne_notAPath (h : codegen fs = .ok configured) :
    configured.override (overrides p) ≠ .notAPath := by
  rw [Codegen.override, Ne, codegen_eq_notAPath_iff]
  rintro ⟨v, hv, hbreaks⟩
  rw [get?_overridden, (get?_overrides p).2.2.2.1] at hv
  obtain rfl := Option.some_inj.1 hv
  rw [rereads_outputDir.of_field (codegen_eq_ok_iff.1 h).2.2.2.1] at hbreaks
  cases hbreaks

/-- The settings for generating code are accepted by themselves. -/
theorem exists_codegen_of_settings {s : Settings} (h : settings fs = .ok s) :
    ∃ inner, codegen inner = .ok s.codegen := by
  rcases field_eq_ok_iff.1 (settings_eq_ok_iff.1 h).2 with ⟨-, hdefault⟩ | ⟨v, -, hv⟩
  · exact ⟨[], by rw [← hdefault]; rfl⟩
  · obtain ⟨inner, -, hinner⟩ := group_eq_ok_iff.1 hv
    exact ⟨inner, hinner⟩

/-- **Options are exact.**  With accepted settings, the options end the run as a mistake on the
command line just if one of them is refused by the check of its own setting.  Otherwise the settings
that are used are the configured ones with what the options say, and nothing else is done.  For this
accepted settings that are written down must be read back as they are, and they are. -/
theorem codegenSettings_exact {s : Settings} (h : settings fs = .ok s) (p : Parsed) (r : Run) :
    ((∃ r', (codegenSettings s p).run.run r = (.error 2, r')) ↔ IsRefused p) ∧
    (¬IsRefused p → ∃ c, (codegenSettings s p).run.run r = (.ok c, r) ∧
      IsOverridden p s.codegen c) ∧
    ∀ key, key = "global" ∨ key = "global_" →
      settings [(key, .obj s.general.fields), ("codegen", .obj s.codegen.fields)] = .ok s := by
  obtain ⟨inner, hinner⟩ := exists_codegen_of_settings h
  have hrefused := exists_isOverridden_iff p s.codegen
  refine ⟨?_, fun haccepted => ?_, fun key => settings_written h⟩
  · rw [codegenSettings]
    cases hoverride : s.codegen.override (overrides p) with
    | ok c =>
      have hc := hrefused.1 ⟨c, (override_eq_ok_iff hinner).1 hoverride⟩
      refine iff_of_false (fun ⟨r', hr'⟩ => ?_) hc
      cases hr'
    | issues found =>
      refine iff_of_true ⟨_, rfl⟩ (not_not.1 fun haccepted => ?_)
      obtain ⟨c, hc⟩ := hrefused.2 haccepted
      rw [(override_eq_ok_iff hinner).2 hc] at hoverride
      cases hoverride
    | notAPath => exact absurd hoverride (override_ne_notAPath hinner)
  · obtain ⟨c, hc⟩ := hrefused.2 haccepted
    refine ⟨c, ?_, hc⟩
    rw [codegenSettings, (override_eq_ok_iff hinner).2 hc]
    rfl

/-- A configuration with settings of each kind. -/
def bakery : Json.Fields :=
  [("global", .obj [("log_level", .str "warning"),
     ("logging", .obj [("modules", .obj [("er2code", .str "debug")])])]),
   ("codegen", .obj [("target", .str "CSharp"), ("namespace", .str "Bakery.Data"),
     ("output_dir", .str "out//src/")])]

/-- What it says. -/
def bakerySettings : Settings where
  general := { logLevel := .warning, logging := { modules := [("er2code", .debug)] } }
  codegen := { declaredNamespace := some "Bakery.Data", outputDir := some ⟨"", ["out", "src"]⟩ }

/-- A run in which nothing has happened. -/
def quietRun : Run where
  world := { now := default, libraries := .standard fun _ => "" }

/-- Options for another context and against the namespace. -/
def shelvesOptions : Parsed := { options := [("namespace", ""), ("context-name", "Shelves")] }

/-- An option that is refused. -/
def numberedOptions : Parsed := { options := [("context-name", "2nd")] }

theorem codegenSettings_exact_bakery : settings bakery = .ok bakerySettings ∧
    ¬IsRefused shelvesOptions ∧
    (∃ c, (codegenSettings bakerySettings shelvesOptions).run.run quietRun = (.ok c, quietRun) ∧
      IsOverridden shelvesOptions bakerySettings.codegen c) ∧
    IsRefused numberedOptions ∧
    ∃ r', (codegenSettings bakerySettings numberedOptions).run.run quietRun = (.error 2, r') := by
  have hbakery : settings bakery = .ok bakerySettings := by decide +kernel
  have haccepted : ¬IsRefused shelvesOptions := by
    rw [← exists_isOverridden_iff _ bakerySettings.codegen]
    exact ⟨{ bakerySettings.codegen with contextName := "Shelves", declaredNamespace := none },
      rfl, (by decide : contextName (.str "Shelves") = .ok "Shelves"),
      (by decide : declaredNamespace (.str "") = .ok none), rfl, rfl, rfl⟩
  have hrefused : IsRefused numberedOptions := .inl ⟨"2nd", _, rfl, rfl⟩
  exact ⟨hbakery, haccepted, (codegenSettings_exact hbakery _ _).2.1 haccepted, hrefused,
    (codegenSettings_exact hbakery _ _).1.2 hrefused⟩

end Command
end Entigram
