import Entigram.Config.Check

/-!
# Checks that accept, and checks that break off

Checking settings accepts them if each of their fields is accepted, and a field is accepted if it is
not there or its value is accepted.  Each way of putting checks together gets the condition for it
to accept, and so does each group of settings, so that an accepted configuration can be taken apart
field by field.

It also gets the condition for it to break off without any issues.  Only one of all checks does so
by itself, and so a check of all settings breaks off just if there is an output directory that is
neither text nor empty (`settings_eq_notAPath_iff`).
-/

set_option autoImplicit false

namespace Entigram
namespace Config

variable {α β : Type}

namespace Checked

theorem map_eq_ok_iff {f : α → β} {x : Checked α} {b : β} :
    f <$> x = .ok b ↔ ∃ a, x = .ok a ∧ f a = b := by
  cases x <;> simp [Functor.map, map]

/-- Two checks accept just if both do. -/
theorem seq_eq_ok_iff {f : Checked (α → β)} {x : Checked α} {b : β} :
    f <*> x = .ok b ↔ ∃ g a, f = .ok g ∧ x = .ok a ∧ g a = b := by
  cases f <;> cases x <;> simp [Seq.seq, seq, map]

theorem andThen_eq_ok_iff {x : Checked α} {f : α → Checked β} {b : β} :
    x.andThen f = .ok b ↔ ∃ a, x = .ok a ∧ f a = .ok b := by
  cases x <;> simp [andThen]

theorem under_eq_ok_iff {key : String} {x : Checked α} {a : α} :
    x.under key = .ok a ↔ x = .ok a := by
  cases x <;> simp [under]

theorem map_eq_notAPath_iff {f : α → β} {x : Checked α} :
    f <$> x = .notAPath ↔ x = .notAPath := by
  cases x <;> simp [Functor.map, map]

/-- Two checks break off just if one does. -/
theorem seq_eq_notAPath_iff {f : Checked (α → β)} {x : Checked α} :
    f <*> x = .notAPath ↔ f = .notAPath ∨ x = .notAPath := by
  cases f <;> cases x <;> simp [Seq.seq, seq, map]

theorem andThen_ne_notAPath {x : Checked α} {f : α → Checked β} (hx : x ≠ .notAPath)
    (hf : ∀ a, f a ≠ .notAPath) : x.andThen f ≠ .notAPath := by
  cases x with
  | ok a => exact hf a
  | issues found => exact nofun
  | notAPath => exact absurd rfl hx

theorem under_eq_notAPath_iff {key : String} {x : Checked α} :
    x.under key = .notAPath ↔ x = .notAPath := by
  cases x <;> simp [under]

end Checked

/-- A field is accepted if it is not there or its value is accepted. -/
theorem field_eq_ok_iff {fs : Json.Fields} {key : String} {default a : α}
    {check : Json → Checked α} : field fs key default check = .ok a ↔
      (Json.get? key fs = none ∧ default = a) ∨
        ∃ v, Json.get? key fs = some v ∧ check v = .ok a := by
  rw [field]
  cases Json.get? key fs <;> simp [Checked.under_eq_ok_iff]

/-- A field that is accepted has its default or an accepted value. -/
theorem eq_default_or_of_field {fs : Json.Fields} {key : String} {default a : α}
    {check : Json → Checked α} (h : field fs key default check = .ok a) :
    a = default ∨ ∃ v, check v = .ok a := by
  rcases field_eq_ok_iff.1 h with ⟨-, hdefault⟩ | ⟨v, -, hv⟩
  · exact .inl hdefault.symm
  · exact .inr ⟨v, hv⟩

theorem group_eq_ok_iff {name : String} {check : Json.Fields → Checked α} {v : Json} {a : α} :
    group name check v = .ok a ↔ ∃ inner, v = .obj inner ∧ check inner = .ok a := by
  cases v <;> simp [group, Checked.wrong]

/-! ## Groups that accept

A group is accepted just if all its fields are. -/

section groups

variable {fs : Json.Fields}

theorem fileLogging_eq_ok_iff {f : FileLogging} : fileLogging fs = .ok f ↔
    field fs "enabled" (FileLogging.enabled {}) flag = .ok f.enabled ∧
    field fs "path" (FileLogging.path {}) pathTemplate = .ok f.path ∧
    field fs "rotation" (FileLogging.rotation {}) rotation = .ok f.rotation ∧
    field fs "retention" (FileLogging.retention {}) text = .ok f.retention ∧
    field fs "compression" (FileLogging.compression {}) text = .ok f.compression := by
  simp only [fileLogging, Checked.seq_eq_ok_iff, Checked.map_eq_ok_iff]
  constructor
  · rintro ⟨_, _, ⟨_, _, ⟨_, _, ⟨_, _, ⟨_, henabled, rfl⟩, hpath, rfl⟩, hrotation, rfl⟩,
      hretention, rfl⟩, hcompression, rfl⟩
    exact ⟨henabled, hpath, hrotation, hretention, hcompression⟩
  · rintro ⟨henabled, hpath, hrotation, hretention, hcompression⟩
    exact ⟨_, _, ⟨_, _, ⟨_, _, ⟨_, _, ⟨_, henabled, rfl⟩, hpath, rfl⟩, hrotation, rfl⟩,
      hretention, rfl⟩, hcompression, rfl⟩

theorem consoleLogging_eq_ok_iff {c : ConsoleLogging} : consoleLogging fs = .ok c ↔
    field fs "format" (ConsoleLogging.format {}) consoleFormat = .ok c.format ∧
    field fs "show_time" (ConsoleLogging.showTime {}) flag = .ok c.showTime ∧
    field fs "show_level" (ConsoleLogging.showLevel {}) flag = .ok c.showLevel ∧
    field fs "show_path" (ConsoleLogging.showPath {}) flag = .ok c.showPath := by
  simp only [consoleLogging, Checked.seq_eq_ok_iff, Checked.map_eq_ok_iff]
  constructor
  · rintro ⟨_, _, ⟨_, _, ⟨_, _, ⟨_, hformat, rfl⟩, htime, rfl⟩, hlevel, rfl⟩, hpath, rfl⟩
    exact ⟨hformat, htime, hlevel, hpath⟩
  · rintro ⟨hformat, htime, hlevel, hpath⟩
    exact ⟨_, _, ⟨_, _, ⟨_, _, ⟨_, hformat, rfl⟩, htime, rfl⟩, hlevel, rfl⟩, hpath, rfl⟩

theorem logging_eq_ok_iff {l : Logging} : logging fs = .ok l ↔
    field fs "file" {} (group "FileLoggingConfig" fileLogging) = .ok l.file ∧
    field fs "console" {} (group "ConsoleLoggingConfig" consoleLogging) = .ok l.console ∧
    field fs "modules" [] modules = .ok l.modules := by
  simp only [logging, Checked.seq_eq_ok_iff, Checked.map_eq_ok_iff]
  constructor
  · rintro ⟨_, _, ⟨_, _, ⟨_, hfile, rfl⟩, hconsole, rfl⟩, hmodules, rfl⟩
    exact ⟨hfile, hconsole, hmodules⟩
  · rintro ⟨hfile, hconsole, hmodules⟩
    exact ⟨_, _, ⟨_, _, ⟨_, hfile, rfl⟩, hconsole, rfl⟩, hmodules, rfl⟩

theorem general_eq_ok_iff {g : General} : general fs = .ok g ↔
    field fs "log_level" (General.logLevel {}) logLevel = .ok g.logLevel ∧
    field fs "logging" {} (group "LoggingConfig" logging) = .ok g.logging := by
  simp only [general, Checked.seq_eq_ok_iff, Checked.map_eq_ok_iff]
  constructor
  · rintro ⟨_, _, ⟨_, hlevel, rfl⟩, hlogging, rfl⟩
    exact ⟨hlevel, hlogging⟩
  · rintro ⟨hlevel, hlogging⟩
    exact ⟨_, _, ⟨_, hlevel, rfl⟩, hlogging, rfl⟩

theorem codegen_eq_ok_iff {c : Codegen} : codegen fs = .ok c ↔
    field fs "target" (Codegen.target {}) target = .ok c.target ∧
    field fs "context_name" (Codegen.contextName {}) contextName = .ok c.contextName ∧
    field fs "namespace" none declaredNamespace = .ok c.declaredNamespace ∧
    field fs "output_dir" none outputDir = .ok c.outputDir ∧
    field fs "entities_filename" (Codegen.entitiesFilename {}) text = .ok c.entitiesFilename ∧
    field fs "context_filename" (Codegen.contextFilename {}) text = .ok c.contextFilename := by
  simp only [codegen, Checked.seq_eq_ok_iff, Checked.map_eq_ok_iff]
  constructor
  · rintro ⟨_, _, ⟨_, _, ⟨_, _, ⟨_, _, ⟨_, _, ⟨_, htarget, rfl⟩, hcontext, rfl⟩, hnamespace, rfl⟩,
      hdir, rfl⟩, hentities, rfl⟩, hmapping, rfl⟩
    exact ⟨htarget, hcontext, hnamespace, hdir, hentities, hmapping⟩
  · rintro ⟨htarget, hcontext, hnamespace, hdir, hentities, hmapping⟩
    exact ⟨_, _, ⟨_, _, ⟨_, _, ⟨_, _, ⟨_, _, ⟨_, htarget, rfl⟩, hcontext, rfl⟩, hnamespace, rfl⟩,
      hdir, rfl⟩, hentities, rfl⟩, hmapping, rfl⟩

/-- Settings are accepted if both of their sections are. -/
theorem settings_eq_ok_iff {s : Settings} : settings fs = .ok s ↔
    field fs (generalKey fs) {} (group "GlobalConfig" general) = .ok s.general ∧
      field fs "codegen" {} (group "CodegenConfig" codegen) = .ok s.codegen := by
  simp only [settings, Checked.seq_eq_ok_iff, Checked.map_eq_ok_iff]
  constructor
  · rintro ⟨_, _, ⟨_, hgeneral, rfl⟩, hcodegen, rfl⟩
    exact ⟨hgeneral, hcodegen⟩
  · rintro ⟨hgeneral, hcodegen⟩
    exact ⟨_, _, ⟨_, hgeneral, rfl⟩, hcodegen, rfl⟩

end groups

/-! ## Checks that break off -/

theorem field_eq_notAPath_iff {fs : Json.Fields} {key : String} {default : α}
    {check : Json → Checked α} : field fs key default check = .notAPath ↔
      ∃ v, Json.get? key fs = some v ∧ check v = .notAPath := by
  rw [field]
  cases Json.get? key fs <;> simp [Checked.under_eq_notAPath_iff]

theorem field_ne_notAPath {fs : Json.Fields} {key : String} {default : α}
    {check : Json → Checked α} (h : ∀ v, check v ≠ .notAPath) :
    field fs key default check ≠ .notAPath := by
  rw [Ne, field_eq_notAPath_iff]
  rintro ⟨v, -, hv⟩
  exact h v hv

theorem group_eq_notAPath_iff {name : String} {check : Json.Fields → Checked α} {v : Json} :
    group name check v = .notAPath ↔ ∃ inner, v = .obj inner ∧ check inner = .notAPath := by
  cases v <;> simp [group, Checked.wrong]

theorem group_ne_notAPath {name : String} {check : Json.Fields → Checked α}
    (h : ∀ fs, check fs ≠ .notAPath) (v : Json) : group name check v ≠ .notAPath := by
  rw [Ne, group_eq_notAPath_iff]
  rintro ⟨inner, -, hinner⟩
  exact h inner hinner

theorem text_ne_notAPath (v : Json) : text v ≠ .notAPath := by
  cases v <;> exact nofun

/-- Checks of a text do not break off, whatever they ask of it. -/
theorem text_andThen_ne_notAPath {f : String → Checked α} (h : ∀ s, f s ≠ .notAPath) (v : Json) :
    (text v).andThen f ≠ .notAPath :=
  Checked.andThen_ne_notAPath (text_ne_notAPath v) h

theorem flag_ne_notAPath (v : Json) : flag v ≠ .notAPath := by
  have hnumber : ∀ n least, numberFlag n least ≠ .notAPath := by
    intro n least
    rw [numberFlag.eq_def]
    split
    · exact nofun
    · exact nofun
    · split <;> exact nofun
    · exact nofun
  cases v with
  | bool b => exact nofun
  | int n => exact hnumber _ _
  | real x => exact hnumber _ _
  | str s =>
    simp only [flag]
    split
    · exact nofun
    · split <;> exact nofun
  | null => exact nofun
  | arr items => exact nofun
  | obj fields => exact nofun

theorem logLevel_ne_notAPath (v : Json) : logLevel v ≠ .notAPath :=
  text_andThen_ne_notAPath (fun s => by split <;> exact nofun) v

theorem texts_ne_notAPath (fs : Json.Fields) : texts fs ≠ .notAPath := by
  induction fs with
  | nil => exact nofun
  | cons f fs ih =>
    rw [texts, Ne, Checked.seq_eq_notAPath_iff, Checked.map_eq_notAPath_iff,
      Checked.under_eq_notAPath_iff]
    exact not_or.2 ⟨text_ne_notAPath _, ih⟩

theorem levels_ne_notAPath (named : List (String × String)) : levels named ≠ .notAPath := by
  induction named with
  | nil => exact nofun
  | cons p named ih =>
    rw [levels]
    split
    · exact fun hmap => ih (Checked.map_eq_notAPath_iff.1 hmap)
    · exact nofun

theorem modules_ne_notAPath (v : Json) : modules v ≠ .notAPath := by
  cases v <;> first
    | exact Checked.andThen_ne_notAPath (texts_ne_notAPath _) levels_ne_notAPath
    | exact nofun

/-- An output directory breaks the check off if it is neither text nor empty. -/
theorem outputDir_eq_notAPath_iff {v : Json} :
    outputDir v = .notAPath ↔ isEmptyValue v = false ∧ ∀ s, v ≠ .str s := by
  rw [outputDir.eq_def]
  split
  · next hempty => exact iff_of_false nofun fun h => Bool.false_ne_true (h.1.symm.trans hempty)
  · next hfull =>
    split
    · next s => exact iff_of_false nofun fun h => h.2 s rfl
    · next hother => exact iff_of_true rfl ⟨Bool.not_eq_true _ ▸ hfull, hother⟩

theorem fileLogging_ne_notAPath (fs : Json.Fields) : fileLogging fs ≠ .notAPath := by
  have hpath : ∀ v, pathTemplate v ≠ .notAPath :=
    text_andThen_ne_notAPath fun s => by dsimp only; split <;> exact nofun
  have hrotation : ∀ v, rotation v ≠ .notAPath :=
    text_andThen_ne_notAPath fun s => by split <;> exact nofun
  simp only [fileLogging, Ne, Checked.seq_eq_notAPath_iff, Checked.map_eq_notAPath_iff, not_or]
  exact ⟨⟨⟨⟨field_ne_notAPath flag_ne_notAPath, field_ne_notAPath hpath⟩,
    field_ne_notAPath hrotation⟩, field_ne_notAPath text_ne_notAPath⟩,
    field_ne_notAPath text_ne_notAPath⟩

theorem consoleLogging_ne_notAPath (fs : Json.Fields) : consoleLogging fs ≠ .notAPath := by
  have hformat : ∀ v, consoleFormat v ≠ .notAPath :=
    text_andThen_ne_notAPath fun s => by
      split
      · exact nofun
      · split <;> exact nofun
  simp only [consoleLogging, Ne, Checked.seq_eq_notAPath_iff, Checked.map_eq_notAPath_iff, not_or]
  exact ⟨⟨⟨field_ne_notAPath hformat, field_ne_notAPath flag_ne_notAPath⟩,
    field_ne_notAPath flag_ne_notAPath⟩, field_ne_notAPath flag_ne_notAPath⟩

theorem general_ne_notAPath (fs : Json.Fields) : general fs ≠ .notAPath := by
  have hlogging : ∀ fs, logging fs ≠ .notAPath := by
    intro fs
    simp only [logging, Ne, Checked.seq_eq_notAPath_iff, Checked.map_eq_notAPath_iff, not_or]
    exact ⟨⟨field_ne_notAPath (group_ne_notAPath fileLogging_ne_notAPath),
      field_ne_notAPath (group_ne_notAPath consoleLogging_ne_notAPath)⟩,
      field_ne_notAPath modules_ne_notAPath⟩
  simp only [general, Ne, Checked.seq_eq_notAPath_iff, Checked.map_eq_notAPath_iff, not_or]
  exact ⟨field_ne_notAPath logLevel_ne_notAPath, field_ne_notAPath (group_ne_notAPath hlogging)⟩

theorem target_ne_notAPath (v : Json) : target v ≠ .notAPath :=
  text_andThen_ne_notAPath (fun s => by split <;> exact nofun) v

theorem contextName_ne_notAPath (v : Json) : contextName v ≠ .notAPath :=
  text_andThen_ne_notAPath (fun s => by split <;> exact nofun) v

theorem declaredNamespace_ne_notAPath (v : Json) : declaredNamespace v ≠ .notAPath := by
  rw [declaredNamespace.eq_def]
  split
  · exact nofun
  · refine text_andThen_ne_notAPath (fun s => ?_) _
    split
    · exact nofun
    · split <;> exact nofun

theorem codegen_eq_notAPath_iff {fs : Json.Fields} : codegen fs = .notAPath ↔
    ∃ v, Json.get? "output_dir" fs = some v ∧ outputDir v = .notAPath := by
  simp only [codegen, Checked.seq_eq_notAPath_iff, Checked.map_eq_notAPath_iff,
    field_ne_notAPath target_ne_notAPath, field_ne_notAPath contextName_ne_notAPath,
    field_ne_notAPath declaredNamespace_ne_notAPath, field_ne_notAPath text_ne_notAPath, false_or,
    or_false]
  exact field_eq_notAPath_iff

/-- **When a check breaks off**: if there is an output directory that is neither text nor empty. -/
theorem settings_eq_notAPath_iff {fs : Json.Fields} : settings fs = .notAPath ↔
    ∃ inner v, Json.get? "codegen" fs = some (.obj inner) ∧
      Json.get? "output_dir" inner = some v ∧ isEmptyValue v = false ∧ ∀ s, v ≠ .str s := by
  simp only [settings, Checked.seq_eq_notAPath_iff, Checked.map_eq_notAPath_iff,
    field_ne_notAPath (group_ne_notAPath general_ne_notAPath), false_or,
    field_eq_notAPath_iff, group_eq_notAPath_iff, codegen_eq_notAPath_iff,
    outputDir_eq_notAPath_iff]
  constructor
  · rintro ⟨_, hcodegen, inner, rfl, v, hdir, hv⟩
    exact ⟨inner, v, hcodegen, hdir, hv⟩
  · rintro ⟨inner, v, hcodegen, hdir, hv⟩
    exact ⟨_, hcodegen, inner, rfl, v, hdir, hv⟩

end Config
end Entigram
