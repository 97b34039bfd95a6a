import Entigram.Proofs.Config.Setting

/-!
# What a variable changes

A variable that names a single setting gives it a value and leaves the others as they are, whatever
stood in the way of its path, but not where the general section is given in its second spelling
(`overrides_iff`).  There the variable makes a section in the first spelling, which is then the one
that counts, and every general setting besides is its default again (`override_loses_level`).

Single settings are read at paths that do not meet, so each of them sees the value at its own path
(`check_eq_of_setAt`) or what was there before (`get_eq_of_setAt`).  What was there before is not
what the settings were: they can come from the second spelling, and then no path leads to them.
-/

set_option autoImplicit false

namespace Entigram
namespace Config

/-- A variable names the path of a setting. -/
def Setting.IsSetBy (l : Setting Settings) (name : String) : Prop :=
  ∃ s ∈ sections, ∃ path, variablePath? s.2 name = some path ∧ l.path = s.1 :: path

/-- The settings as a variable finds them that sets the value at a path. -/
def found (path : List String) (fs : Json.Fields) (s : Settings) : Settings :=
  if path.head? = some "global" then stated fs s else s

section override

variable {fs : Json.Fields} {s s' : Settings} {key : String} {path : List String} {value : Json}

/-! ## Sections that are set -/

theorem canBeSet_of_field {σ : Type} {initial a : σ} {name : String}
    {check : Json.Fields → Checked σ} (h : field fs key initial (group name check) = .ok a) :
    CanBeSet fs key := by
  intro v hv
  rcases field_eq_ok_iff.1 h with ⟨hnone, -⟩ | ⟨w, hw, haccepted⟩
  · rw [hnone] at hv
    cases hv
  · obtain rfl := Option.some_inj.1 (hv.symm.trans hw)
    obtain ⟨inner, hinner, -⟩ := group_eq_ok_iff.1 haccepted
    exact ⟨inner, hinner⟩

/-- In accepted configurations every section can be set. -/
theorem canBeSet_of_settings (h : settings fs = .ok s) : ∀ c ∈ sections, CanBeSet fs c.1 := by
  obtain ⟨hgeneral, hcodegen⟩ := settings_eq_ok_iff.1 h
  rw [sections, List.forall_mem_cons, List.forall_mem_singleton]
  refine ⟨fun v hv => ?_, canBeSet_of_field hcodegen⟩
  rw [generalKey, if_pos (by rw [hv]; rfl)] at hgeneral
  exact canBeSet_of_field hgeneral v hv

/-- A value in the section for generating code does not change the general settings. -/
theorem general_setAt_codegen (h : settings fs = .ok s)
    (h' : settings (setAt fs "codegen" path value) = .ok s') : s'.general = s.general := by
  have hget : ∀ other, "codegen" ≠ other →
      Json.get? other (setAt fs "codegen" path value) = Json.get? other fs :=
    fun other hother => get?_setAt fs "codegen" other path value hother
  have hkey : generalKey (setAt fs "codegen" path value) = generalKey fs := by
    rw [generalKey, generalKey, hget "global" (by decide)]
  have hother : "codegen" ≠ generalKey fs := by
    rw [generalKey]
    split <;> decide
  have hgeneral := (settings_eq_ok_iff.1 h').1
  rw [hkey, field, hget _ hother] at hgeneral
  exact Checked.ok.inj (hgeneral.symm.trans (settings_eq_ok_iff.1 h).1)

/-! ## Single settings -/

theorem mem_singles {l : Setting Settings} : l ∈ Settings.singles ↔
    (∃ g ∈ General.singles, g.under "global" Settings.general = l) ∨
      ∃ c ∈ Codegen.singles, c.under "codegen" Settings.codegen = l := by
  rw [Settings.singles, List.mem_append, List.mem_map, List.mem_map]

/-- A setting is stated if its section is there in the first spelling, or is the other section. -/
theorem get_stated {l : Setting Settings} (hl : l ∈ Settings.singles)
    (h : l.path.head? = some "global" → (Json.get? "global" fs).isSome = true) :
    l.get (stated fs s) = l.get s := by
  rcases mem_singles.1 hl with ⟨g, -, rfl⟩ | ⟨c, -, rfl⟩
  · rw [stated_of_isSome (h rfl)]
  · exact congrArg c.get codegen_stated

/-- The setting at the path has the value. -/
theorem check_eq_of_setAt (h' : settings (setAt fs key path value) = .ok s')
    {l : Setting Settings} (hl : l ∈ Settings.singles) (hpath : l.path = key :: path) :
    l.check value = .ok (l.get s') := by
  have hread := readAt_stated h' l hl
  rw [get_stated hl] at hread
  · rw [Setting.readAt, hpath, read?_setAt_self] at hread
    exact hread
  · rw [hpath]
    rintro ⟨⟩
    exact isSome_get?_setAt fs "global" path value

/-- The settings at other paths are what the variable found. -/
theorem get_eq_of_setAt (hkey : key = "global" ∨ key = "codegen") (h : settings fs = .ok s)
    (h' : settings (setAt fs key path value) = .ok s') {m : Setting Settings}
    (hm : m ∈ Settings.singles) (hapart : ¬key :: path <+: m.path)
    (hapart' : ¬m.path <+: key :: path) : m.get s' = m.get (found (key :: path) fs s) := by
  have hstated : m.get (stated (setAt fs key path value) s') = m.get (stated fs s) := by
    have hread : m.readAt (setAt fs key path value) m.path = m.readAt fs m.path :=
      Setting.readAt_congr (read?_setAt_of_apart fs hapart hapart')
    rw [readAt_stated h' m hm, readAt_stated h m hm] at hread
    exact Checked.ok.inj hread
  rcases hkey with rfl | rfl
  · rwa [stated_of_isSome (isSome_get?_setAt fs "global" path value)] at hstated
  · rcases mem_singles.1 hm with ⟨g, -, rfl⟩ | ⟨c, -, rfl⟩
    · exact congrArg g.get (general_setAt_codegen h h')
    · have hother : (c.under "codegen" Settings.codegen).path.head? ≠ some "global" := by
        simp [Setting.under]
      rwa [get_stated hm fun hglobal => absurd hglobal hother,
        get_stated hm fun hglobal => absurd hglobal hother] at hstated

/-! ## Variables -/

variable {l : Setting Settings} {name text : String}

/-- A general setting is not stated where its section is not there in the first spelling. -/
theorem get_stated_general {g : Setting General} (hg : g ∈ General.singles)
    (h : Json.get? "global" fs = none) : g.get (stated fs s).general = g.default := by
  rw [stated, h, if_neg (by simp)]
  exact General.account.get_initial g hg

/-- The variable found the other settings as they were if it is for the other section, or the
general section was there in the first spelling, or all else in it was a default. -/
theorem get_found_iff : (∀ m ∈ Settings.singles, m.path ≠ l.path →
      m.get (found l.path fs s) = m.get s) ↔
    (l.path.head? = some "global" → Json.get? "global" fs = none → ∀ g ∈ General.singles,
      "global" :: g.path ≠ l.path → g.get s.general = g.default) := by
  rw [found]
  split
  · next hglobal =>
    constructor
    · intro hkept _ hnone g hg hother
      rw [← get_stated_general hg hnone]
      exact (hkept _ (mem_singles.2 (.inl ⟨g, hg, rfl⟩)) hother).symm
    · intro hdefault m hm hother
      cases hfirst : Json.get? "global" fs with
      | some v => rw [stated_of_isSome (by rw [hfirst]; rfl)]
      | none =>
        rcases mem_singles.1 hm with ⟨g, hg, rfl⟩ | ⟨c, -, rfl⟩
        · exact (get_stated_general hg hfirst).trans (hdefault hglobal hfirst g hg hother).symm
        · exact congrArg c.get codegen_stated
  · next hcodegen => exact iff_of_true (fun _ _ _ => rfl) fun hglobal => absurd hglobal hcodegen

/-- **What a variable changes.**  If a configuration is accepted and also with a variable that names
a single setting, then the variable could be set, the setting has its text as far as its check reads
it, and every other setting is what the variable found; so the settings are known.  All other
settings are as they were if the general section does not stand under its second spelling.  If it
does, and under that alone, they are as they were just if the variable is for the other section or
everything else in the general section was a default. -/
theorem overrides_iff (hl : l ∈ Settings.singles) (hname : l.IsSetBy name)
    (h : settings fs = .ok s) (h' : settings (applyVariables [(name, text)] fs).fields = .ok s') :
    (applyVariables [(name, text)] fs).fault = none ∧
    l.check (.str text) = .ok (l.get s') ∧
    (∀ m ∈ Settings.singles, m.path ≠ l.path → m.get s' = m.get (found l.path fs s)) ∧
    (∀ t, l.check (.str text) = .ok (l.get t) →
      (∀ m ∈ Settings.singles, m.path ≠ l.path → m.get t = m.get (found l.path fs s)) → t = s') ∧
    (Json.get? "global_" fs = none →
      ∀ m ∈ Settings.singles, m.path ≠ l.path → m.get s' = m.get s) ∧
    ((∀ m ∈ Settings.singles, m.path ≠ l.path → m.get s' = m.get s) ↔
      (l.path.head? = some "global" → Json.get? "global" fs = none → ∀ g ∈ General.singles,
        "global" :: g.path ≠ l.path → g.get s.general = g.default)) := by
  obtain ⟨c, hc, path, hvariable, hpath⟩ := hname
  have hcanBeSet := canBeSet_of_settings h
  rw [fields_applyVariables_singleton hc hvariable (hcanBeSet c hc)] at h'
  have hvalue := check_eq_of_setAt h' hl hpath
  have hothers : ∀ m ∈ Settings.singles, m.path ≠ l.path →
      m.get s' = m.get (found l.path fs s) := by
    intro m hm hother
    have hkey : ∀ c ∈ sections, c.1 = "global" ∨ c.1 = "codegen" := by decide
    rw [hpath]
    refine get_eq_of_setAt (hkey c hc) h h' hm (fun hprefix => ?_) fun hprefix => ?_
    · rw [← hpath] at hprefix
      exact hother (Settings.path_eq_of_prefix l hl m hm hprefix).symm
    · rw [← hpath] at hprefix
      exact hother (Settings.path_eq_of_prefix m hm l hl hprefix)
  refine ⟨(fault_applyVariables_eq_none_iff _ _).2 fun d hd _ => hcanBeSet d hd, hvalue, hothers,
    fun t hcheck hsame => ?_, fun hsecond m hm hother => ?_, ?_⟩
  · refine Settings.eq_of_get_eq fun m hm => ?_
    by_cases hother : m.path = l.path
    · obtain rfl := Settings.eq_of_path_eq hm hl hother
      exact Checked.ok.inj (hcheck.symm.trans hvalue)
    · rw [hsame m hm hother, hothers m hm hother]
  · rw [hothers m hm hother, found]
    split
    · rw [stated_of_none h hsecond]
    · rfl
  · rw [← get_found_iff]
    refine forall₃_congr fun m hm hother => ?_
    rw [hothers m hm hother]

/-- The variable for the format of the console. -/
def formatVariable : String := "ER2CODE_GLOBAL_LOGGING__CONSOLE__FORMAT"

/-- A configuration with an object on the way to the format, and other settings around it. -/
def workshop : Json.Fields :=
  [("global", .obj [("log_level", .str "debug"),
    ("logging", .obj [("console", .obj [("show_time", .bool false)])])]),
   ("codegen", .obj [("namespace", .str "Shop")])]

/-- What it says. -/
def workshopSettings : Settings where
  general := { logLevel := .debug, logging := { console := { showTime := false } } }
  codegen := { declaredNamespace := some "Shop" }

theorem overrides_iff_workshop : settings workshop = .ok workshopSettings ∧
    ∃ s', settings (applyVariables [(formatVariable, "detailed")] workshop).fields = .ok s' ∧
      s'.general.logging.console.format = .detailed ∧
      ∃ l ∈ Settings.singles, l.path = ["global", "logging", "console", "format"] ∧
        l.IsSetBy formatVariable ∧
        ∀ m ∈ Settings.singles, m.path ≠ l.path → m.get s' = m.get workshopSettings := by
  have hworkshop : settings workshop = .ok workshopSettings := by decide +kernel
  have hdetailed : settings (applyVariables [(formatVariable, "detailed")] workshop).fields =
      .ok { general := { logLevel := .debug,
                         logging := { console := { format := .detailed, showTime := false } } },
            codegen := { declaredNamespace := some "Shop" } } := by decide +kernel
  have hname : (Settings.singles.get ⟨6, by decide⟩).IsSetBy formatVariable :=
    ⟨("global", "GLOBAL"), by decide, _, by decide +kernel, rfl⟩
  have hkept := (overrides_iff (List.get_mem _ _) hname hworkshop hdetailed).2.2.2.2.1 rfl
  exact ⟨hworkshop, _, hdetailed, rfl, _, List.get_mem _ _, rfl, hname, hkept⟩

/-- A level in the second spelling of the general section. -/
def secondSpelling : Json.Fields := [("global_", .obj [("log_level", .str "DEBUG")])]

/-- The level is lost when the format is set. -/
theorem override_loses_level :
    settings secondSpelling = .ok { general := { logLevel := .debug } } ∧
    settings (applyVariables [(formatVariable, "detailed")] secondSpelling).fields =
      .ok { general := { logLevel := .info,
                         logging := { console := { format := .detailed } } } } := by
  decide +kernel

end override

end Config
end Entigram
