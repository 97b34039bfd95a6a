import Entigram.Proofs.Config.Names
import Entigram.Proofs.Path

/-!
# Settings that are written down

Settings can be written down as a configuration, and reading that gives them back
(`settings_written`).  This is not plain, because checks change what they accept: texts become
levels, paths or nothing.  So what is written down is not what was read, and each check has to
accept its own results, and as what they are (`Rereads`).

Results are all that is known of accepted settings, and not everything of its type is one: there is
a level that no setting can name, and a path can have names that no text of a path has.
-/

set_option autoImplicit false

namespace Entigram
namespace Config

/-- A check that reads its own results back, and the default, from what is written down for them. -/
structure Rereads {α : Type} (check : Json → Checked α) (default : α) (written : α → Json) :
    Prop where
  default : check (written default) = .ok default
  accepted : ∀ {v a}, check v = .ok a → check (written a) = .ok a

namespace Rereads

variable {α : Type} {check : Json → Checked α} {default a : α} {written : α → Json}
  {fs fs' : Json.Fields} {key key' : String}

/-- What a field has can be read back. -/
theorem of_field (h : Rereads check default written) (hfield : field fs key default check = .ok a) :
    check (written a) = .ok a := by
  rcases eq_default_or_of_field hfield with rfl | ⟨v, hv⟩
  · exact h.default
  · exact h.accepted hv

/-- A field that is written down, under whatever key, is accepted with what it has. -/
theorem field_eq (h : Rereads check default written) (hfield : field fs key default check = .ok a)
    (hget : Json.get? key' fs' = some (written a)) : field fs' key' default check = .ok a :=
  field_eq_ok_iff.2 (.inr ⟨_, hget, h.of_field hfield⟩)

/-- A check that lets some texts through as they are reads these back. -/
theorem ofCondition {c : String → Bool} {why : String → Rejection} {default : String}
    (hdefault : c default = true) :
    Rereads (fun v => (text v).andThen fun s => if c s then .ok s else Checked.reject (why s))
      default .str := by
  refine ⟨if_pos hdefault, fun {v t} hv => ?_⟩
  obtain ⟨s, -, hs⟩ := Checked.andThen_eq_ok_iff.1 hv
  split at hs
  · next hc =>
    obtain rfl := Checked.ok.inj hs
    exact if_pos hc
  · cases hs

/-- A group reads its settings back if its check does. -/
theorem ofGroup {check : Json.Fields → Checked α} {fields : α → Json.Fields} {name : String}
    (hdefault : check [] = .ok default)
    (h : ∀ {fs a}, check fs = .ok a → check (fields a) = .ok a) :
    Rereads (group name check) default fun a => .obj (fields a) := by
  refine ⟨h hdefault, fun {v a} hv => ?_⟩
  obtain ⟨inner, rfl, hinner⟩ := group_eq_ok_iff.1 hv
  exact h hinner

end Rereads

/-! ## Single settings -/

theorem rereads_flag (default : Bool) : Rereads flag default .bool := ⟨rfl, fun _ => rfl⟩

theorem rereads_text (default : String) : Rereads text default .str := ⟨rfl, fun _ => rfl⟩

/-- The level of a text is one that settings can name. -/
theorem level?_name {s : String} {l : Log.Level} (h : level? s = some l) :
    level? l.name = some l := by
  have hnames : ∀ l ∈ settableLevels, level? l.name = some l := by decide +kernel
  exact hnames l (List.mem_of_find?_eq_some h)

theorem rereads_logLevel : Rereads logLevel (General.logLevel {}) fun l => .str l.name := by
  refine ⟨by decide +kernel, fun {v l} hv => ?_⟩
  obtain ⟨s, -, hs⟩ := Checked.andThen_eq_ok_iff.1 hv
  split at hs
  · next l' hl' =>
    obtain rfl := Checked.ok.inj hs
    rw [logLevel, text, Checked.andThen, level?_name hl']
  · cases hs

theorem rereads_modules :
    Rereads modules [] fun ms => .obj (ms.map fun m => (m.1, .str m.2.name)) := by
  have htexts : ∀ ms : List (String × Log.Level),
      texts (ms.map fun m => (m.1, .str m.2.name)) = .ok (ms.map fun m => (m.1, m.2.name)) := by
    intro ms
    induction ms with
    | nil => rfl
    | cons m ms ih =>
      rw [List.map_cons, texts, ih]
      rfl
  have hlevels : ∀ {named : List (String × String)} {ms : List (String × Log.Level)},
      levels named = .ok ms → levels (ms.map fun m => (m.1, m.2.name)) = .ok ms := by
    intro named
    induction named with
    | nil =>
      intro ms h
      cases h
      rfl
    | cons p named ih =>
      intro ms h
      rw [levels] at h
      split at h
      · next l hl =>
        obtain ⟨rest, hrest, rfl⟩ := Checked.map_eq_ok_iff.1 h
        rw [List.map_cons, levels, level?_name hl, ih hrest]
        rfl
      · cases h
  refine ⟨rfl, fun {v ms} hv => ?_⟩
  cases v with
  | obj fs =>
    obtain ⟨named, -, hnamed⟩ := Checked.andThen_eq_ok_iff.1 hv
    rw [modules, htexts]
    exact hlevels hnamed
  | _ => cases hv

theorem rereads_pathTemplate : Rereads pathTemplate (FileLogging.path {}) .str :=
  .ofCondition (by decide +kernel)

theorem rereads_rotation : Rereads rotation (FileLogging.rotation {}) .str :=
  .ofCondition (by decide +kernel)

theorem rereads_contextName : Rereads contextName (Codegen.contextName {}) .str :=
  .ofCondition (by decide)

theorem rereads_consoleFormat :
    Rereads consoleFormat (ConsoleLogging.format {}) fun f => .str f.name := by
  refine ⟨by decide, fun {v f} _ => ?_⟩
  cases f <;> decide

theorem rereads_target : Rereads target (Codegen.target {}) fun t => .str t.name := by
  have hname : ∀ t : Target, target (.str t.name) = .ok t := by
    intro t
    rw [target, text, Checked.andThen, Target.ofName?_name]
  exact ⟨hname _, fun _ => hname _⟩

theorem rereads_declaredNamespace :
    Rereads declaredNamespace none fun n => (n.map Json.str).getD .null := by
  refine ⟨rfl, fun {v n} hv => ?_⟩
  cases n with
  | none => rfl
  | some n =>
    have haccepts := accepts_of_declaredNamespace hv
    have hne : n ≠ "" := by
      rintro rfl
      cases haccepts
    exact (declaredNamespace_str n).trans ((if_neg hne).trans (if_pos haccepts))

/-- A directory was read from a text. -/
theorem exists_of_outputDir {v : Json} {p : Path} (h : outputDir v = .ok (some p)) :
    ∃ s, p = Path.ofString s := by
  rw [outputDir.eq_def] at h
  split at h
  · cases h
  · split at h
    · next s _ => exact ⟨s, (Option.some_inj.1 (Checked.ok.inj h)).symm⟩
    · cases h

theorem rereads_outputDir :
    Rereads outputDir none fun d => (d.map fun p => Json.str p.toString).getD .null := by
  refine ⟨rfl, fun {v d} hv => ?_⟩
  cases d with
  | none => rfl
  | some p =>
    obtain ⟨s, rfl⟩ := exists_of_outputDir hv
    have hnormal := Path.isNormal_ofString s
    have hfull : ¬isEmptyValue (.str (Path.ofString s).toString) = true := by
      simpa [isEmptyValue] using hnormal.toString_ne
    exact (if_neg hfull).trans
      (congrArg (fun p => Checked.ok (some p)) hnormal.ofString_toString)

/-! ## Groups -/

section groups

variable {fs : Json.Fields}

theorem fileLogging_written {f : FileLogging} (h : fileLogging fs = .ok f) :
    fileLogging f.fields = .ok f := by
  obtain ⟨henabled, hpath, hrotation, hretention, hcompression⟩ := fileLogging_eq_ok_iff.1 h
  exact fileLogging_eq_ok_iff.2 ⟨(rereads_flag _).field_eq henabled rfl,
    rereads_pathTemplate.field_eq hpath rfl, rereads_rotation.field_eq hrotation rfl,
    (rereads_text _).field_eq hretention rfl, (rereads_text _).field_eq hcompression rfl⟩

theorem consoleLogging_written {c : ConsoleLogging} (h : consoleLogging fs = .ok c) :
    consoleLogging c.fields = .ok c := by
  obtain ⟨hformat, htime, hlevel, hpath⟩ := consoleLogging_eq_ok_iff.1 h
  exact consoleLogging_eq_ok_iff.2 ⟨rereads_consoleFormat.field_eq hformat rfl,
    (rereads_flag _).field_eq htime rfl, (rereads_flag _).field_eq hlevel rfl,
    (rereads_flag _).field_eq hpath rfl⟩

theorem logging_written {l : Logging} (h : logging fs = .ok l) : logging l.fields = .ok l := by
  have hreadsFile : Rereads (group "FileLoggingConfig" fileLogging) {} fun f => .obj f.fields :=
    .ofGroup rfl fileLogging_written
  have hreadsConsole :
      Rereads (group "ConsoleLoggingConfig" consoleLogging) {} fun c => .obj c.fields :=
    .ofGroup rfl consoleLogging_written
  obtain ⟨hfile, hconsole, hmodules⟩ := logging_eq_ok_iff.1 h
  exact logging_eq_ok_iff.2 ⟨hreadsFile.field_eq hfile rfl, hreadsConsole.field_eq hconsole rfl,
    rereads_modules.field_eq hmodules rfl⟩

theorem general_written {g : General} (h : general fs = .ok g) : general g.fields = .ok g := by
  have hreads : Rereads (group "LoggingConfig" logging) {} fun l => .obj l.fields :=
    .ofGroup rfl logging_written
  obtain ⟨hlevel, hlogging⟩ := general_eq_ok_iff.1 h
  exact general_eq_ok_iff.2 ⟨rereads_logLevel.field_eq hlevel rfl, hreads.field_eq hlogging rfl⟩

theorem codegen_written {c : Codegen} (h : codegen fs = .ok c) : codegen c.fields = .ok c := by
  obtain ⟨htarget, hcontext, hnamespace, hdir, hentities, hmapping⟩ := codegen_eq_ok_iff.1 h
  exact codegen_eq_ok_iff.2 ⟨rereads_target.field_eq htarget rfl,
    rereads_contextName.field_eq hcontext rfl, rereads_declaredNamespace.field_eq hnamespace rfl,
    rereads_outputDir.field_eq hdir rfl, (rereads_text _).field_eq hentities rfl,
    (rereads_text _).field_eq hmapping rfl⟩

/-- **Settings are read back from what is written down for them**, under either spelling of the
general section. -/
theorem settings_written {s : Settings} (h : settings fs = .ok s) {key : String}
    (hkey : key = "global" ∨ key = "global_") :
    settings [(key, .obj s.general.fields), ("codegen", .obj s.codegen.fields)] = .ok s := by
  have hreadsGeneral : Rereads (group "GlobalConfig" general) {} fun g => .obj g.fields :=
    .ofGroup rfl general_written
  have hreadsCodegen : Rereads (group "CodegenConfig" codegen) {} fun c => .obj c.fields :=
    .ofGroup rfl codegen_written
  obtain ⟨hgeneral, hcodegen⟩ := settings_eq_ok_iff.1 h
  rcases hkey with rfl | rfl <;>
    exact settings_eq_ok_iff.2
      ⟨hreadsGeneral.field_eq hgeneral rfl, hreadsCodegen.field_eq hcodegen rfl⟩

end groups

end Config
end Entigram
