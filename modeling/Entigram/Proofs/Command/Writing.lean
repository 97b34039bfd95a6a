import Mathlib.Data.Set.Insert
import Entigram.Proofs.Command.Action
import Entigram.Proofs.Command.Override

/-!
# Which files `generate` writes

The command writes two files, one after the other, and only after everything else that can go wrong
(`generate_cases`).  So a run that fails has written nothing, unless it is writing that failed.
Then one file can be there already, and the one that was being written holds what the device took of
it (`BrokeOff`, `writeSources_cases`).

A run that succeeds leaves both sources in their files (`generate_writes`).  What could come in the
way of that is the other file, if both names lead to one place, and logging, which goes on before
and after.
-/

set_option autoImplicit false

namespace Entigram
namespace Command

variable {settings : Config.Settings} {codegen : Config.Codegen} {input : String}
  {words : List String} {p : Parsed} {c : Generation.Conversion} {dir : Path} {r r' : Run}
  {result : Except Status Unit}

/-! ## Up to the conversion -/

section ok

variable {α : Type} {a : α}

theorem of_orMisuse_ok {x : Except UsageError α} (h : (orMisuse x).run.run r = (.ok a, r')) :
    x = .ok a ∧ r = r' := by
  cases x with
  | ok b =>
    cases h
    exact ⟨rfl, rfl⟩
  | error e => cases h

theorem of_answerAtOnce_ok {u : Unit} (h : (answerAtOnce p).run.run r = (.ok u, r')) : r = r' := by
  rw [answerAtOnce] at h
  split at h
  · cases h
  · cases h
  · cases h
    rfl

theorem of_commandLine_ok {specs : List OptionSpec}
    (h : (commandLine specs words).run.run r = (.ok p, r')) :
    parse (specs ++ [helpOption]) true words = .ok p ∧ r = r' := by
  rw [commandLine, run_bind_eq_iff] at h
  rcases h with ⟨_, -, hstop⟩ | ⟨p', r₁, hread, hrest⟩
  · cases hstop
  obtain ⟨hparsed, rfl⟩ := of_orMisuse_ok hread
  rw [run_bind_eq_iff] at hrest
  rcases hrest with ⟨_, -, hstop⟩ | ⟨u, r₂, hanswered, hpure⟩
  · cases hstop
  obtain rfl := of_answerAtOnce_ok hanswered
  cases hpure
  exact ⟨hparsed, rfl⟩

theorem of_codegenSettings_ok (h : (codegenSettings settings p).run.run r = (.ok codegen, r')) :
    settings.codegen.override (overrides p) = .ok codegen ∧ r = r' := by
  rw [codegenSettings] at h
  cases hoverride : settings.codegen.override (overrides p) with
  | ok found =>
    rw [hoverride] at h
    cases h
    exact ⟨rfl, rfl⟩
  | issues found =>
    rw [hoverride] at h
    cases h
  | notAPath =>
    rw [hoverride] at h
    cases h

end ok

theorem IsQuiet.codegenSettings (settings : Config.Settings) (p : Parsed) :
    IsQuiet (codegenSettings settings p) := by
  rw [Command.codegenSettings]
  split
  · exact .misuse _
  · exact .fail _
  · exact .pure _

theorem IsQuiet.printSources (codegen : Config.Codegen) (c : Generation.Conversion) :
    IsQuiet (printSources codegen c) :=
  (printLine _).bind fun _ => (printLine _).bind fun _ => (printLine _).bind fun _ => .printLine _

/-- What the words and the diagram come to: the words taken apart, the settings with the options in
them, and the conversion of the diagram. -/
structure Converts (settings : Config.Settings) (input : String) (words : List String) (w : World)
    (p : Parsed) (codegen : Config.Codegen) (c : Generation.Conversion) : Prop where
  parsed : parse (generateOptions ++ [helpOption]) true words = .ok p
  overridden : settings.codegen.override (overrides p) = .ok codegen
  converted : ∃ text, diagramArgument w input p.arguments = .ok text ∧
    (Generation.convert codegen.style w.elapsed text).result = .ok c

/-- The directory that the sources go to; if there is none, they are printed. -/
def destination (p : Parsed) (codegen : Config.Codegen) : Option Path :=
  if p.has "stdout" then none else (p.path? "output-dir").or codegen.outputDir

/-- What is done with the sources. -/
def deliver (p : Parsed) (codegen : Config.Codegen) (c : Generation.Conversion) : Action Unit :=
  match destination p codegen with
  | none => printSources codegen c
  | some dir => writeSources codegen dir c

/-- **Nothing is written before both sources are there.**  The command fails with no change to
files, or it comes to sources with no change to files and goes on with these. -/
theorem generate_cases (h : (generate settings input words).run.run r = (result, r')) :
    (∃ status, result = .error status ∧ r.Changes r.logPlaces r') ∨
      ∃ p codegen c r₁, Converts settings input words r.world p codegen c ∧
        r.Changes r.logPlaces r₁ ∧ (deliver p codegen c).run.run r₁ = (result, r') := by
  rcases (IsQuiet.commandLine generateOptions words).bind_cases h with hstop | ⟨p, _, hline, h⟩
  · exact .inl hstop
  obtain ⟨hparsed, rfl⟩ := of_commandLine_ok hline
  rcases IsQuiet.get.bind_cases h with hstop | ⟨_, _, hget, h⟩
  · exact .inl hstop
  cases hget
  rcases (IsQuiet.orMisuse _).bind_cases h with hstop | ⟨_, _, hoptions, h⟩
  · exact .inl hstop
  obtain ⟨-, rfl⟩ := of_orMisuse_ok hoptions
  rcases (IsQuiet.orMisuse _).bind_cases h with hstop | ⟨text, _, hread, h⟩
  · exact .inl hstop
  obtain ⟨htext, rfl⟩ := of_orMisuse_ok hread
  rcases (IsQuiet.codegenSettings settings p).bind_cases h with hstop | ⟨codegen, _, hsettings, h⟩
  · exact .inl hstop
  obtain ⟨hoverridden, rfl⟩ := of_codegenSettings_ok hsettings
  rcases (IsQuiet.report _).bind_cases h with hstop | ⟨_, r₁, hreport, h⟩
  · exact .inl hstop
  have hreported := (IsQuiet.report _).of_run hreport
  cases hconvert : (Generation.convert codegen.style r.world.elapsed text).result with
  | ok c =>
    rw [hconvert] at h
    exact .inr ⟨p, codegen, c, r₁, ⟨hparsed, hoverridden, text, htext, hconvert⟩, hreported, h⟩
  | error why =>
    -- neither way for a conversion to fail has anything to do with files
    rw [hconvert] at h
    have hfail : ∀ line, (fail line : Action Unit).run.run r₁ = (result, r') →
        ∃ status, result = .error status ∧ r.Changes r.logPlaces r' := by
      intro line hline
      have hfailed := (IsQuiet.fail line).of_run hline
      rw [hreported.logPlaces_eq] at hfailed
      cases hline
      exact ⟨1, rfl, hreported.trans hfailed⟩
    cases why with
    | unresolved u => exact .inl (hfail _ h)
    | unnamed n => exact .inl (hfail _ h)

/-! ## Two files -/

/-- The file for the entities. -/
def entitiesFile (codegen : Config.Codegen) (dir : Path) : Path :=
  dir.join (Path.ofString codegen.entitiesFilename)

/-- The file for the mapping. -/
def mappingFile (codegen : Config.Codegen) (dir : Path) : Path :=
  dir.join (Path.ofString codegen.contextFilename)

section outcomes

variable (codegen : Config.Codegen) (dir : Path) (c : Generation.Conversion) (r r' : Run)

/-- Where the entities go, and the log file. -/
def entitiesPlaces : Set Place := {r.placeOf (entitiesFile codegen dir)} ∪ r.logPlaces

/-- Where both sources go, and the log file. -/
def bothPlaces : Set Place :=
  {r.placeOf (entitiesFile codegen dir), r.placeOf (mappingFile codegen dir)} ∪ r.logPlaces

/-- Both sources are in their files, and other files are as they were.  The file for the entities
can be the one for the mapping, and logging can have to do with either; what these hold then is not
said. -/
structure BothWritten : Prop where
  changes : r.Changes (bothPlaces codegen dir r) r'
  entities : r.placeOf (entitiesFile codegen dir) ≠ r.placeOf (mappingFile codegen dir) →
    r.placeOf (entitiesFile codegen dir) ∉ r.logPlaces →
      r'.Holds (entitiesFile codegen dir) c.entities
  mapping : r.placeOf (mappingFile codegen dir) ∉ r.logPlaces →
    r'.Holds (mappingFile codegen dir) c.mapping

/-- Writing has begun and came to no end.  Each case says which files can have been changed by
then. -/
inductive BrokeOff : Prop
  /-- The device stopped in the file for the entities. -/
  | inEntities (changes : r.Changes (entitiesPlaces codegen dir r) r')
      (cut : r'.Cut (entitiesFile codegen dir) c.entities)
  /-- The entities are in their file, and the one for the mapping cannot be opened. -/
  | between {fault : Disk.Fault} (changes : r.Changes (entitiesPlaces codegen dir r) r')
      (entities : r'.Holds (entitiesFile codegen dir) c.entities)
      (fault : r'.world.disk.placeToWrite r'.world.working (mappingFile codegen dir) =
        .error fault)
  /-- The device stopped in the file for the mapping. -/
  | inMapping (changes : r.Changes (bothPlaces codegen dir r) r')
      (entities : r.placeOf (entitiesFile codegen dir) ≠ r.placeOf (mappingFile codegen dir) →
        r'.Holds (entitiesFile codegen dir) c.entities)
      (cut : r'.Cut (mappingFile codegen dir) c.mapping)

end outcomes

theorem logPlaces_subset_entitiesPlaces : r.logPlaces ⊆ entitiesPlaces codegen dir r :=
  Set.subset_union_right

theorem entitiesPlaces_subset_bothPlaces :
    entitiesPlaces codegen dir r ⊆ bothPlaces codegen dir r :=
  Set.union_subset_union_left _ (Set.singleton_subset_iff.2 (Set.mem_insert _ _))

theorem logPlaces_subset_bothPlaces : r.logPlaces ⊆ bothPlaces codegen dir r :=
  Set.subset_union_right

section steps

variable {r₁ r₂ r₃ : Run}

/-- The first file is written to after records were. -/
theorem changes_entities (hbefore : r.Changes r.logPlaces r₁)
    (h : r₁.Changes {r₁.placeOf (entitiesFile codegen dir)} r₂) :
    r.Changes (entitiesPlaces codegen dir r) r₂ := by
  rw [hbefore.placeOf_eq] at h
  exact (hbefore.mono Set.subset_union_right).trans (h.mono Set.subset_union_left)

/-- The second file is written to after the first was. -/
theorem changes_mapping (hone : r.Changes (entitiesPlaces codegen dir r) r₂)
    (h : r₂.Changes {r₂.placeOf (mappingFile codegen dir)} r₃) :
    r.Changes (bothPlaces codegen dir r) r₃ := by
  rw [hone.placeOf_eq] at h
  refine (hone.mono entitiesPlaces_subset_bothPlaces).trans (h.mono ?_)
  exact Set.singleton_subset_iff.2 (.inl (Set.mem_insert_of_mem _ rfl))

/-- What the first file holds is not touched by the second, if that is another one. -/
theorem holds_entities (hone : r.Changes (entitiesPlaces codegen dir r) r₂)
    (hentities : r₂.Holds (entitiesFile codegen dir) c.entities)
    (h : r₂.Changes {r₂.placeOf (mappingFile codegen dir)} r₃)
    (hne : r.placeOf (entitiesFile codegen dir) ≠ r.placeOf (mappingFile codegen dir)) :
    r₃.Holds (entitiesFile codegen dir) c.entities := by
  refine h.holds hentities ?_
  rwa [hone.placeOf_eq, hone.placeOf_eq, Set.mem_singleton_iff]

end steps

theorem writeSources_eq (codegen : Config.Codegen) (dir : Path) (c : Generation.Conversion) :
    ∃ records, writeSources codegen dir c = (do
      makeDirectory dir
      writeFile (entitiesFile codegen dir) c.entities
      writeFile (mappingFile codegen dir) c.mapping
      report records) :=
  ⟨_, rfl⟩

/-- **Writing goes in steps.**  It succeeds with both files, or it fails before it has begun, or it
breaks off. -/
theorem writeSources_cases (h : (writeSources codegen dir c).run.run r = (result, r')) :
    (result = .ok () ∧ BothWritten codegen dir c r r') ∨
      ∃ status, result = .error status ∧
        (r.Changes r.logPlaces r' ∨ BrokeOff codegen dir c r r') := by
  obtain ⟨records, hsteps⟩ := writeSources_eq codegen dir c
  rw [hsteps, run_bind_eq_iff] at h
  rcases h with ⟨status, hstop, rfl⟩ | ⟨_, r₁, hdir, h⟩
  · exact .inr ⟨status, rfl, .inl ((IsQuiet.makeDirectory _).of_run hstop)⟩
  have hdir := (IsQuiet.makeDirectory _).of_run hdir
  rw [run_bind_eq_iff] at h
  rcases h with ⟨status, hstop, rfl⟩ | ⟨_, r₂, hfirst, h⟩
  · refine .inr ⟨status, rfl, ?_⟩
    cases writes_of_run hstop with
    | unopened hlogger hworld hfault => exact .inl (hdir.trans (.of_eq hlogger hworld))
    | broken hchanges hcut => exact .inr (.inEntities (changes_entities hdir hchanges) hcut)
  obtain ⟨hone, hentities⟩ : r.Changes (entitiesPlaces codegen dir r) r₂ ∧
      r₂.Holds (entitiesFile codegen dir) c.entities := by
    cases writes_of_run hfirst with
    | whole hchanges hholds => exact ⟨changes_entities hdir hchanges, hholds⟩
  rw [run_bind_eq_iff] at h
  rcases h with ⟨status, hstop, rfl⟩ | ⟨_, r₃, hsecond, h⟩
  · refine .inr ⟨status, rfl, .inr ?_⟩
    cases writes_of_run hstop with
    | unopened hlogger hworld hfault =>
      refine .between (hone.trans (.of_eq hlogger hworld)) ?_ (hworld ▸ hfault)
      rw [Run.Holds, hworld]
      exact hentities
    | broken hchanges hcut =>
      exact .inMapping (changes_mapping hone hchanges) (holds_entities hone hentities hchanges) hcut
  obtain ⟨hsecond, hmapping⟩ : r₂.Changes {r₂.placeOf (mappingFile codegen dir)} r₃ ∧
      r₃.Holds (mappingFile codegen dir) c.mapping := by
    cases writes_of_run hsecond with
    | whole hchanges hholds => exact ⟨hchanges, hholds⟩
  have hboth := changes_mapping hone hsecond
  -- the record at the end can change no more than log files
  have hreport := (IsQuiet.report records).of_run h
  rw [hboth.logPlaces_eq] at hreport
  cases h
  refine .inl ⟨rfl, hboth.trans (hreport.mono logPlaces_subset_bothPlaces), ?_, ?_⟩
  · intro hne hlog
    exact hreport.holds (holds_entities hone hentities hsecond hne) (by rwa [hboth.placeOf_eq])
  · intro hlog
    exact hreport.holds hmapping (by rwa [hboth.placeOf_eq])

/-! ## Whole runs of the command -/

section before

variable {r₁ : Run} (h : r.Changes r.logPlaces r₁)

include h

theorem entitiesPlaces_eq : entitiesPlaces codegen dir r₁ = entitiesPlaces codegen dir r := by
  rw [entitiesPlaces, entitiesPlaces, h.placeOf_eq, h.logPlaces_eq]

theorem bothPlaces_eq : bothPlaces codegen dir r₁ = bothPlaces codegen dir r := by
  rw [bothPlaces, bothPlaces, h.placeOf_eq, h.placeOf_eq, h.logPlaces_eq]

/-- Records that come before do not count. -/
theorem BothWritten.of_changes (hwritten : BothWritten codegen dir c r₁ r') :
    BothWritten codegen dir c r r' := by
  obtain ⟨hchanges, hentities, hmapping⟩ := hwritten
  rw [bothPlaces_eq h] at hchanges
  rw [h.placeOf_eq, h.placeOf_eq, h.logPlaces_eq] at hentities
  rw [h.placeOf_eq, h.logPlaces_eq] at hmapping
  exact ⟨(h.mono logPlaces_subset_bothPlaces).trans hchanges, hentities, hmapping⟩

theorem BrokeOff.of_changes (hbroke : BrokeOff codegen dir c r₁ r') :
    BrokeOff codegen dir c r r' := by
  cases hbroke with
  | inEntities hchanges hcut =>
    rw [entitiesPlaces_eq h] at hchanges
    exact .inEntities ((h.mono logPlaces_subset_entitiesPlaces).trans hchanges) hcut
  | between hchanges hentities hfault =>
    rw [entitiesPlaces_eq h] at hchanges
    exact .between ((h.mono logPlaces_subset_entitiesPlaces).trans hchanges) hentities hfault
  | inMapping hchanges hentities hcut =>
    rw [bothPlaces_eq h] at hchanges
    rw [h.placeOf_eq, h.placeOf_eq] at hentities
    exact .inMapping ((h.mono logPlaces_subset_bothPlaces).trans hchanges) hentities hcut

end before

/-- **What `generate` writes.**  If it succeeds, the words and the diagram came to sources, and
these are in their files if there is a directory for them; if there is none, no files were changed.
If it fails, no files were changed, or there were sources and writing them broke off.  What logging
has to do with can be changed besides. -/
theorem generate_writes (h : (generate settings input words).run.run r = (result, r')) :
    (result = .ok () → ∃ p codegen c, Converts settings input words r.world p codegen c ∧
      (∀ dir, destination p codegen = some dir → BothWritten codegen dir c r r') ∧
      (destination p codegen = none → r.Changes r.logPlaces r')) ∧
    ∀ status, result = .error status → r.Changes r.logPlaces r' ∨
      ∃ p codegen c dir, Converts settings input words r.world p codegen c ∧
        destination p codegen = some dir ∧ BrokeOff codegen dir c r r' := by
  rcases generate_cases h with
    ⟨status, rfl, hquiet⟩ | ⟨p, codegen, c, r₁, hconverts, hbefore, hrest⟩
  · exact ⟨nofun, fun _ _ => .inl hquiet⟩
  rw [deliver] at hrest
  cases hdir : destination p codegen with
  | none =>
    rw [hdir] at hrest
    have hprinted := (IsQuiet.printSources codegen c).of_run hrest
    rw [hbefore.logPlaces_eq] at hprinted
    refine ⟨fun _ => ⟨p, codegen, c, hconverts, ?_, fun _ => hbefore.trans hprinted⟩,
      fun _ _ => .inl (hbefore.trans hprinted)⟩
    rw [hdir]
    exact fun _ hsome => nomatch hsome
  | some dir =>
    rw [hdir] at hrest
    rcases writeSources_cases hrest with ⟨rfl, hwritten⟩ | ⟨status, rfl, hquiet | hbroke⟩
    · refine ⟨fun _ => ⟨p, codegen, c, hconverts, ?_, ?_⟩, nofun⟩
      · rw [hdir]
        rintro _ ⟨⟩
        exact hwritten.of_changes hbefore
      · rw [hdir]
        exact nofun
    · rw [hbefore.logPlaces_eq] at hquiet
      exact ⟨nofun, fun _ _ => .inl (hbefore.trans hquiet)⟩
    · exact ⟨nofun, fun _ _ =>
        .inr ⟨p, codegen, c, dir, hconverts, hdir, hbroke.of_changes hbefore⟩⟩

/-- A diagram with one entity. -/
def note : String := "erDiagram\n  NOTE \x7b\n    int id PK\n  \x7d\n"

/-- The diagram comes from the input, and there is a directory for the sources. -/
def noteWords : List String := ["-", "-o", "out"]

/-- The path of a file in that directory. -/
def inOut (name : String) : Path := { root := "", names := ["out", name] }

/-- A run whose log file lies in that directory too, and a directory that exists. -/
def loggingRun (name : String) : Run where
  world := { quietRun.world with disk := { nodes := [(["out"], .directory)] } }
  logger := { fileSink := some {
    level := .trace
    file := RotatedFile.logFile (inOut name) (.age ⟨Duration.dayLength⟩) } }

theorem eq_of_mem_logPlaces {name : String} {place : Place}
    (h : place ∈ (loggingRun name).logPlaces) :
    place = (Disk.absolute (loggingRun name).world.working (inOut name)).names :=
  RotatedFile.places_logFile _ _ _ h

theorem generate_writes_note :
    let out := (generate {} note noteWords).run.run (loggingRun "er.log")
    out.1 = .ok () ∧
    ∃ c, (Generation.convert ({} : Config.Codegen).style "" note).result = .ok c ∧
      out.2.Holds (inOut "Entities.cs") c.entities ∧
      out.2.Holds (inOut "AppDbContext.cs") c.mapping := by
  have hok : ((generate {} note noteWords).run.run (loggingRun "er.log")).1 = .ok () := by
    decide +kernel
  obtain ⟨p, codegen, c, hconverts, hwritten, -⟩ := (generate_writes rfl).1 hok
  obtain ⟨options, arguments⟩ := p
  obtain rfl : options = [("output-dir", "out")] :=
    Attempt.eq_of_map_toOption (fun p : Parsed => p.options) hconverts.parsed (by decide +kernel)
  obtain rfl : arguments = ["-"] :=
    Attempt.eq_of_map_toOption (fun p : Parsed => p.arguments) hconverts.parsed (by decide +kernel)
  obtain rfl : ({} : Config.Codegen) = codegen :=
    Config.Checked.ok.inj ((by decide +kernel : _ = _).symm.trans hconverts.overridden)
  obtain ⟨text, htext, hconvert⟩ := hconverts.converted
  obtain rfl : note = text := Except.ok.inj ((by decide +kernel : _ = _).symm.trans htext)
  have hboth := hwritten { root := "", names := ["out"] } (by decide +kernel)
  have hentities : (_ : Run).Holds (inOut "Entities.cs") c.entities :=
    hboth.entities (by decide +kernel) fun hmem =>
      absurd (eq_of_mem_logPlaces hmem) (by decide +kernel)
  have hmapping : (_ : Run).Holds (inOut "AppDbContext.cs") c.mapping :=
    hboth.mapping fun hmem => absurd (eq_of_mem_logPlaces hmem) (by decide +kernel)
  exact ⟨hok, c, hconvert, hentities, hmapping⟩

/-- Settings with these names for the two files. -/
def named (entities mapping : String) : Config.Settings where
  codegen := { entitiesFilename := entities, contextFilename := mapping }

/-- A run on a device that takes nothing for the files of a name. -/
def fullRun (name : String) : Run where
  world := { quietRun.world with
    device := fun _ place _ => if place.getLast? = some name then some "" else none }

/-- A diagram with a relationship to an entity that it does not have. -/
def ghost : String := note ++ "  NOTE ||--o\x7b GHOST : sees\n"

/-- There is no directory for the second file. -/
def half : Except Status Unit × Run :=
  (generate (named "Entities.cs" "missing/AppDbContext.cs") note noteWords).run.run quietRun

/-- A file is opened, and nothing can be put there. -/
def stopped (name : String) : Except Status Unit × Run :=
  (generate {} note noteWords).run.run (fullRun name)

/-- Both sources have one place. -/
def twice : Except Status Unit × Run :=
  (generate (named "Model.cs" "Model.cs") note noteWords).run.run quietRun

/-- The entities and the records have one place. -/
def mixed : Except Status Unit × Run :=
  (generate {} note noteWords).run.run (loggingRun "Entities.cs")

/-- The diagram has no sources, and the log file lies where they would go. -/
def logged : Except Status Unit × Run := (generate {} ghost noteWords).run.run (loggingRun "er.log")

/-- Asked for help, the command ends well before it reads a diagram. -/
def helped : Except Status Unit × Run :=
  (generate {} note ("--help" :: noteWords)).run.run quietRun

/-- There was no file with this path in one run, and there is one in the other. -/
def NewFile (r r' : Run) (p : Path) : Prop :=
  r.world.disk.find? r.world.working p = none ∧
    (r'.world.disk.find? r'.world.working p).any Node.isFile = true

/-- The first file stays where the second cannot be opened, and either stays where its content is
not taken.  Of two sources for one place the second stays, and records can be added to a source.
They go to the log file also where the command fails.  A run that shows help writes nothing. -/
theorem generate_writes_by_halves :
    (half.1 = .error 1 ∧ NewFile quietRun half.2 (inOut "Entities.cs")) ∧
    (∀ name ∈ ["Entities.cs", "AppDbContext.cs"],
      (stopped name).1 = .error 1 ∧ NewFile (fullRun name) (stopped name).2 (inOut name)) ∧
    (∃ c ∈ (Generation.convert ({} : Config.Codegen).style "" note).result.toOption,
      (twice.1 = .ok () ∧ twice.2.Holds (inOut "Model.cs") c.mapping ∧ c.mapping ≠ c.entities) ∧
      mixed.1 = .ok () ∧ ¬mixed.2.Holds (inOut "Entities.cs") c.entities) ∧
    (logged.1 = .error 1 ∧ NewFile (loggingRun "er.log") logged.2 (inOut "er.log")) ∧
    helped.1 = .error 0 ∧ helped.2.world.disk.find? [] (inOut "Entities.cs") = none := by
  unfold NewFile Run.Holds
  decide +kernel

end Command
end Entigram
