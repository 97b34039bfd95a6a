import Mathlib.Data.List.Nodup
import Entigram.Proofs.Config.Checked
import Entigram.Proofs.Config.Tree

/-!
# Single settings

Settings are nested, and so is their check.  Seen from below there are single settings, each with a
path in the configuration, a default and a check of one value (`Setting`).  A group lists its single
settings, and a group in another one brings them along one level further down (`Setting.under`).

Two facts make the lists an account of the check.

* In accepted settings each single setting is what stands at its path, or its default if nothing can
  be read there (`Account`).  For a group that is left out this needs that the initial value of the
  group is made of the defaults of its settings.
* The lists are complete: settings that are the same one by one are the same
  (`Settings.eq_of_get_eq`).

Only the general settings need care, since their section has two spellings, and paths begin with the
first: what stands under the second is not read along them (`stated`).
-/

set_option autoImplicit false

namespace Entigram
namespace Config

/-- A single setting in settings of some type. -/
structure Setting (σ : Type) where
  Value : Type
  /-- Where the value stands in a configuration. -/
  path : List String
  default : Value
  check : Json → Checked Value
  get : σ → Value

namespace Setting

variable {σ τ : Type}

/-- A setting of a part, seen from the whole. -/
def under (key : String) (part : σ → τ) (l : Setting τ) : Setting σ :=
  { l with path := key :: l.path, get := fun s => l.get (part s) }

/-- What a configuration says of a setting at a path. -/
def readAt (l : Setting σ) (fs : Json.Fields) (path : List String) : Checked l.Value :=
  match read? (.obj fs) path with
  | some v => l.check v
  | none => .ok l.default

theorem readAt_congr {l : Setting σ} {fs fs' : Json.Fields} {path path' : List String}
    (h : read? (.obj fs') path' = read? (.obj fs) path) :
    l.readAt fs' path' = l.readAt fs path := by
  rw [readAt, readAt, h]

theorem readAt_of_none (l : Setting σ) {fs : Json.Fields} {path : List String}
    (h : read? (.obj fs) path = none) : l.readAt fs path = .ok l.default := by
  rw [readAt, h]

/-- A field that is accepted has what stands under its key. -/
theorem readAt_of_field {l : Setting σ} {fs : Json.Fields} {key : String} {a : l.Value}
    (h : field fs key l.default l.check = .ok a) : l.readAt fs [key] = .ok a := by
  rw [readAt, read?_obj_cons]
  rcases field_eq_ok_iff.1 h with ⟨hkey, rfl⟩ | ⟨v, hkey, hv⟩
  · rw [hkey]
    rfl
  · rw [hkey]
    exact hv

end Setting

/-- Single settings that account for the check of a group: what the group is without any fields, and
what it is with some. -/
structure Account {σ : Type} (check : Json.Fields → Checked σ) (initial : σ)
    (singles : List (Setting σ)) : Prop where
  get_initial : ∀ l ∈ singles, l.get initial = l.default
  readAt_of_ok : ∀ {fs s}, check fs = .ok s → ∀ l ∈ singles, l.readAt fs l.path = .ok (l.get s)

/-- What a group has in a field is read below the key of the field. -/
theorem Account.readAt_of_field {σ : Type} {check : Json.Fields → Checked σ} {initial s : σ}
    {singles : List (Setting σ)} (account : Account check initial singles) {fs : Json.Fields}
    {key name : String} (h : field fs key initial (group name check) = .ok s) :
    ∀ l ∈ singles, l.readAt fs (key :: l.path) = .ok (l.get s) := by
  intro l hl
  rcases field_eq_ok_iff.1 h with ⟨hkey, rfl⟩ | ⟨v, hkey, hv⟩
  · rw [l.readAt_of_none (by rw [read?_obj_cons, hkey]; rfl), account.get_initial l hl]
  · obtain ⟨inner, rfl, hinner⟩ := group_eq_ok_iff.1 hv
    rw [← account.readAt_of_ok hinner l hl]
    exact Setting.readAt_congr (by rw [read?_obj_cons, hkey]; rfl)

/-! ## The single settings of each group -/

/-- The settings of file logging. -/
def FileLogging.singles : List (Setting FileLogging) :=
  [⟨Bool, ["enabled"], FileLogging.enabled {}, flag, FileLogging.enabled⟩,
    ⟨String, ["path"], FileLogging.path {}, pathTemplate, FileLogging.path⟩,
    ⟨String, ["rotation"], FileLogging.rotation {}, Config.rotation, FileLogging.rotation⟩,
    ⟨String, ["retention"], FileLogging.retention {}, text, FileLogging.retention⟩,
    ⟨String, ["compression"], FileLogging.compression {}, text, FileLogging.compression⟩]

/-- The settings of console logging. -/
def ConsoleLogging.singles : List (Setting ConsoleLogging) :=
  [⟨ConsoleFormat, ["format"], ConsoleLogging.format {}, consoleFormat, ConsoleLogging.format⟩,
    ⟨Bool, ["show_time"], ConsoleLogging.showTime {}, flag, ConsoleLogging.showTime⟩,
    ⟨Bool, ["show_level"], ConsoleLogging.showLevel {}, flag, ConsoleLogging.showLevel⟩,
    ⟨Bool, ["show_path"], ConsoleLogging.showPath {}, flag, ConsoleLogging.showPath⟩]

/-- The settings of logging. -/
def Logging.singles : List (Setting Logging) :=
  FileLogging.singles.map (.under "file" Logging.file) ++
    ConsoleLogging.singles.map (.under "console" Logging.console) ++
    [⟨List (String × Log.Level), ["modules"], [], Config.modules, Logging.modules⟩]

/-- The general settings. -/
def General.singles : List (Setting General) :=
  ⟨Log.Level, ["log_level"], General.logLevel {}, Config.logLevel, General.logLevel⟩ ::
    Logging.singles.map (.under "logging" General.logging)

/-- The settings for generating code. -/
def Codegen.singles : List (Setting Codegen) :=
  [⟨Target, ["target"], Codegen.target {}, Config.target, Codegen.target⟩,
    ⟨String, ["context_name"], Codegen.contextName {}, Config.contextName, Codegen.contextName⟩,
    ⟨Option String, ["namespace"], none, Config.declaredNamespace, Codegen.declaredNamespace⟩,
    ⟨Option Path, ["output_dir"], none, Config.outputDir, Codegen.outputDir⟩,
    ⟨String, ["entities_filename"], Codegen.entitiesFilename {}, text, Codegen.entitiesFilename⟩,
    ⟨String, ["context_filename"], Codegen.contextFilename {}, text, Codegen.contextFilename⟩]

/-- All settings, the general ones under the first spelling of their section. -/
def Settings.singles : List (Setting Settings) :=
  General.singles.map (.under "global" Settings.general) ++
    Codegen.singles.map (.under "codegen" Settings.codegen)

theorem FileLogging.account : Account fileLogging {} FileLogging.singles where
  get_initial := by simp [FileLogging.singles]
  readAt_of_ok h := by
    obtain ⟨henabled, hpath, hrotation, hretention, hcompression⟩ := fileLogging_eq_ok_iff.1 h
    simp only [FileLogging.singles, List.forall_mem_cons]
    exact ⟨Setting.readAt_of_field henabled, Setting.readAt_of_field hpath,
      Setting.readAt_of_field hrotation, Setting.readAt_of_field hretention,
      Setting.readAt_of_field hcompression, List.forall_mem_nil _⟩

theorem ConsoleLogging.account : Account consoleLogging {} ConsoleLogging.singles where
  get_initial := by simp [ConsoleLogging.singles]
  readAt_of_ok h := by
    obtain ⟨hformat, htime, hlevel, hpath⟩ := consoleLogging_eq_ok_iff.1 h
    simp only [ConsoleLogging.singles, List.forall_mem_cons]
    exact ⟨Setting.readAt_of_field hformat, Setting.readAt_of_field htime,
      Setting.readAt_of_field hlevel, Setting.readAt_of_field hpath, List.forall_mem_nil _⟩

theorem Logging.account : Account logging {} Logging.singles where
  get_initial := by
    simp only [Logging.singles, List.forall_mem_append, List.forall_mem_map,
      List.forall_mem_singleton, and_true]
    exact ⟨FileLogging.account.get_initial, ConsoleLogging.account.get_initial⟩
  readAt_of_ok h := by
    obtain ⟨hfile, hconsole, hmodules⟩ := logging_eq_ok_iff.1 h
    simp only [Logging.singles, List.forall_mem_append, List.forall_mem_map,
      List.forall_mem_singleton]
    exact ⟨⟨FileLogging.account.readAt_of_field hfile,
      ConsoleLogging.account.readAt_of_field hconsole⟩, Setting.readAt_of_field hmodules⟩

theorem General.account : Account general {} General.singles where
  get_initial := by
    simp only [General.singles, List.forall_mem_cons, List.forall_mem_map, true_and]
    exact Logging.account.get_initial
  readAt_of_ok h := by
    obtain ⟨hlevel, hlogging⟩ := general_eq_ok_iff.1 h
    simp only [General.singles, List.forall_mem_cons, List.forall_mem_map]
    exact ⟨Setting.readAt_of_field hlevel, Logging.account.readAt_of_field hlogging⟩

theorem Codegen.account : Account codegen {} Codegen.singles where
  get_initial := by simp [Codegen.singles]
  readAt_of_ok h := by
    obtain ⟨htarget, hcontext, hnamespace, hdir, hentities, hmapping⟩ := codegen_eq_ok_iff.1 h
    simp only [Codegen.singles, List.forall_mem_cons]
    exact ⟨Setting.readAt_of_field htarget, Setting.readAt_of_field hcontext,
      Setting.readAt_of_field hnamespace, Setting.readAt_of_field hdir,
      Setting.readAt_of_field hentities, Setting.readAt_of_field hmapping, List.forall_mem_nil _⟩

/-! ## All settings -/

section all

variable {fs fs' : Json.Fields} {s s' t : Settings}

/-- The settings that stand under the first spelling of the general section, with those for
generating code. -/
def stated (fs : Json.Fields) (s : Settings) : Settings :=
  if (Json.get? "global" fs).isSome then s else { s with general := {} }

theorem stated_of_isSome (h : (Json.get? "global" fs).isSome = true) : stated fs s = s :=
  if_pos h

theorem codegen_stated : (stated fs s).codegen = s.codegen := by
  rw [stated]
  split <;> rfl

/-- Where the second spelling is not used either, nothing is lost. -/
theorem stated_of_none (h : settings fs = .ok s) (hsecond : Json.get? "global_" fs = none) :
    stated fs s = s := by
  rw [stated]
  split
  · rfl
  · next hfirst =>
    have hgeneral := (settings_eq_ok_iff.1 h).1
    rw [generalKey, if_neg hfirst, field, hsecond] at hgeneral
    rw [Checked.ok.inj hgeneral]

/-- Each single setting among the stated ones is what stands at its path. -/
theorem readAt_stated (h : settings fs = .ok s) :
    ∀ l ∈ Settings.singles, l.readAt fs l.path = .ok (l.get (stated fs s)) := by
  obtain ⟨hgeneral, hcodegen⟩ := settings_eq_ok_iff.1 h
  simp only [Settings.singles, List.forall_mem_append, List.forall_mem_map]
  rw [stated]
  split
  · next hfirst =>
    rw [generalKey, if_pos hfirst] at hgeneral
    exact ⟨General.account.readAt_of_field hgeneral, Codegen.account.readAt_of_field hcodegen⟩
  · next hfirst =>
    have hmissing : field fs "global" {} (group "GlobalConfig" general) = .ok {} := by
      rw [field, Option.not_isSome_iff_eq_none.1 hfirst]
    exact ⟨General.account.readAt_of_field hmissing, Codegen.account.readAt_of_field hcodegen⟩

/-- Settings that are the same one by one are the same. -/
theorem Settings.eq_of_get_eq (h : ∀ l ∈ Settings.singles, l.get s = l.get t) : s = t := by
  obtain ⟨⟨_, ⟨⟨⟩, ⟨⟩, _⟩⟩, ⟨⟩⟩ := s
  obtain ⟨⟨_, ⟨⟨⟩, ⟨⟩, _⟩⟩, ⟨⟩⟩ := t
  simpa [Settings.singles, General.singles, Logging.singles, FileLogging.singles,
    ConsoleLogging.singles, Codegen.singles, Setting.under, and_assoc] using h

/-- No single setting is a part of another. -/
theorem Settings.path_eq_of_prefix : ∀ l ∈ Settings.singles, ∀ m ∈ Settings.singles,
    l.path <+: m.path → l.path = m.path := by
  decide +kernel

/-- Single settings have paths of their own. -/
theorem Settings.eq_of_path_eq {l m : Setting Settings} (hl : l ∈ Settings.singles)
    (hm : m ∈ Settings.singles) (h : l.path = m.path) : l = m :=
  List.inj_on_of_nodup_map (by decide +kernel : (Settings.singles.map Setting.path).Nodup) hl hm h

end all

end Config
end Entigram
