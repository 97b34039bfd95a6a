import Entigram.Command.Arguments
import Entigram.Proofs.Log.File

/-!
# What commands do to files

A command goes on step by step, and may end before its end.  So what it does is known from its steps
(`run_bind_eq_iff`).  Most of them do nothing to files but that records go to the log file
(`IsQuiet`), and a command made of such steps is quiet itself (`IsQuiet.bind`).
-/

set_option autoImplicit false

namespace Entigram
namespace Command

variable {α β : Type} {x : Action α} {f : α → Action β} {r r' r'' : Run}

/-! ## Steps -/

/-- One step after another: the first ends the run, or the second goes on from where the first
came to. -/
theorem run_bind_eq_iff {result : Except Status β} :
    (x >>= f).run.run r = (result, r') ↔
      (∃ status, x.run.run r = (.error status, r') ∧ result = .error status) ∨
      ∃ a r₁, x.run.run r = (.ok a, r₁) ∧ (f a).run.run r₁ = (result, r') := by
  have hbind : (x >>= f).run.run r = match x.run.run r with
      | (.ok a, r₁) => (f a).run.run r₁
      | (.error status, r₁) => (.error status, r₁) := by
    rw [ExceptT.run_bind, StateT.run_bind]
    rcases x.run.run r with ⟨a | status, r₁⟩ <;> rfl
  rw [hbind]
  rcases x.run.run r with ⟨status | a, r₁⟩
  · constructor
    · intro h
      obtain ⟨rfl, rfl⟩ := Prod.mk.inj h
      exact .inl ⟨status, rfl, rfl⟩
    · rintro (⟨status', hstop, rfl⟩ | ⟨a, r₂, hok, -⟩)
      · cases hstop
        rfl
      · cases hok
  · constructor
    · exact fun h => .inr ⟨a, r₁, rfl, h⟩
    · rintro (⟨status, hstop, -⟩ | ⟨a', r₂, hok, h⟩)
      · cases hstop
      · cases hok
        exact h

/-- A change of the files is made, and a fault on the way ends the run. -/
theorem run_changeDisk (change : World → Disk.Attempt) (r : Run) :
    (changeDisk change).run.run r =
      let (disk, result) := change r.world
      match result with
      | .ok () => (.ok (), { r with world := { r.world with disk } })
      | .error fault => (.error 1, { r with
          world := { r.world with disk }
          errors := r.errors ++ [s!"Error: {faultText fault}"] }) := by
  have hset : (changeDisk change).run.run r =
      (match (change r.world).2 with
        | .ok () => pure ()
        | .error fault => fail s!"Error: {faultText fault}" : Action Unit).run.run
        { r with world := { r.world with disk := (change r.world).1 } } := rfl
  rw [hset]
  rcases change r.world with ⟨disk, fault | u⟩ <;> rfl

/-! ## Runs -/

/-- The place that a path means in a run. -/
def Run.placeOf (r : Run) (p : Path) : Place := (Disk.absolute r.world.working p).names

/-- The file with this path has this content. -/
def Run.Holds (r : Run) (p : Path) (content : String) : Prop :=
  r.world.disk.read r.world.working p = .ok content

/-- The places of the log file of a run, if there is one. -/
def Run.logPlaces (r : Run) : Set Place := r.logger.places r.world.working

/-- What happened to files from one moment of a run to a later one: in these places there can be
other ones, and directories can have been made. -/
structure Run.Changes (places : Set Place) (r r' : Run) : Prop where
  logger : r'.logger = r.logger
  world : r.world.Changes places r'.world

namespace Run.Changes

variable {places places' : Set Place}

theorem refl (places : Set Place) (r : Run) : Changes places r r := ⟨rfl, .refl _ _⟩

theorem of_eq (hlogger : r'.logger = r.logger) (hworld : r'.world = r.world) :
    Changes places r r' :=
  ⟨hlogger, by rw [hworld]; exact .refl _ _⟩

theorem trans (h : Changes places r r') (h' : Changes places r' r'') : Changes places r r'' :=
  ⟨h'.logger.trans h.logger, h.world.trans h'.world⟩

theorem mono (h : Changes places r r') (hsub : places ⊆ places') : Changes places' r r' :=
  ⟨h.logger, h.world.mono hsub⟩

theorem logPlaces_eq (h : Changes places r r') : r'.logPlaces = r.logPlaces := by
  rw [Run.logPlaces, Run.logPlaces, h.logger, h.world.working]

theorem placeOf_eq (h : Changes places r r') (p : Path) : r'.placeOf p = r.placeOf p := by
  rw [Run.placeOf, Run.placeOf, h.world.working]

/-- What is in a file stays there if the file is in none of the places. -/
theorem holds (h : Changes places r r') {p : Path} {content : String} (hp : r.Holds p content)
    (hplace : r.placeOf p ∉ places) : r'.Holds p content := by
  rw [Run.Holds, h.world.working]
  exact h.world.keeps.read hp hplace

end Run.Changes

/-! ## Quiet steps -/

/-- A step that leaves files alone but for the log file. -/
def IsQuiet (x : Action α) : Prop := ∀ r : Run, r.Changes r.logPlaces (x.run.run r).2

namespace IsQuiet

theorem of_run (h : IsQuiet x) {result : Except Status α} (hx : x.run.run r = (result, r')) :
    r.Changes r.logPlaces r' := by
  have hr := h r
  rwa [hx] at hr

/-- Quiet steps one after another are quiet. -/
theorem bind (hx : IsQuiet x) (hf : ∀ a, IsQuiet (f a)) : IsQuiet (x >>= f) := by
  intro r
  rcases hrun : (x >>= f).run.run r with ⟨result, r'⟩
  rcases run_bind_eq_iff.1 hrun with ⟨status, hstop, -⟩ | ⟨a, r₁, hfirst, hsecond⟩
  · exact hx.of_run hstop
  · have hfirst := hx.of_run hfirst
    have hsecond := (hf a).of_run hsecond
    rw [hfirst.logPlaces_eq] at hsecond
    exact hfirst.trans hsecond

/-- A quiet step first: the run ends there without a change, or it goes on. -/
theorem bind_cases (hx : IsQuiet x) {result : Except Status β}
    (h : (x >>= f).run.run r = (result, r')) :
    (∃ status, result = .error status ∧ r.Changes r.logPlaces r') ∨
      ∃ a r₁, x.run.run r = (.ok a, r₁) ∧ (f a).run.run r₁ = (result, r') :=
  (run_bind_eq_iff.1 h).imp_left fun ⟨status, hstop, herror⟩ => ⟨status, herror, hx.of_run hstop⟩

theorem pure (a : α) : IsQuiet (pure a) := fun _ => .refl _ _

theorem get : IsQuiet (get : Action Run) := fun _ => .refl _ _

theorem stop (status : Status) : IsQuiet (stop status : Action α) := fun _ => .refl _ _

theorem complain (line : String) : IsQuiet (complain line) := fun _ => ⟨rfl, .refl _ _⟩

theorem printLine (line : String) : IsQuiet (printLine line) := fun _ => ⟨rfl, .refl _ _⟩

theorem fail (line : String) : IsQuiet (fail line : Action α) :=
  (complain line).bind fun _ => .stop 1

theorem misuse (e : UsageError) : IsQuiet (misuse e : Action α) :=
  (complain _).bind fun _ => .stop _

theorem orMisuse (x : Except UsageError α) : IsQuiet (orMisuse x) := by
  cases x with
  | ok a => exact .pure a
  | error e => exact .misuse e

theorem report (records : List Log.Record) : IsQuiet (report records) :=
  fun r => ⟨rfl, r.logger.changes_emit r.world records⟩

theorem answerAtOnce (p : Parsed) : IsQuiet (answerAtOnce p) := by
  rw [Command.answerAtOnce]
  split
  · exact (printLine _).bind fun _ => .stop 0
  · exact .stop 0
  · exact .pure ()

theorem commandLine (specs : List OptionSpec) (words : List String) :
    IsQuiet (commandLine specs words) :=
  (orMisuse _).bind fun p => (answerAtOnce p).bind fun _ => .pure p

/-- Directories are no files. -/
theorem makeDirectory (p : Path) : IsQuiet (makeDirectory p) := by
  intro r
  have hkeeps := (r.world.disk.keeps_makeDirectory r.world.working p).mono
    (Set.empty_subset r.logPlaces)
  rw [Command.makeDirectory, run_changeDisk]
  revert hkeeps
  rcases r.world.disk.makeDirectory r.world.working p with ⟨disk, fault | u⟩ <;>
    exact fun hkeeps => ⟨rfl, .of_keeps hkeeps⟩

end IsQuiet

/-! ## Writing a file -/

/-- The device stopped in a file, which holds what was taken by then. -/
def Run.Cut (r : Run) (p : Path) (content : String) : Prop :=
  ∃ opened taken, r.world.device opened (r.placeOf p) content = some taken ∧ r.Holds p taken

/-- How writing a file ends, and what the run is like then. -/
inductive Writes (p : Path) (content : String) (r r' : Run) : Except Status Unit → Prop
  /-- The file cannot be opened, and nothing is changed. -/
  | unopened {fault : Disk.Fault} (logger : r'.logger = r.logger) (world : r'.world = r.world)
      (fault : r.world.disk.placeToWrite r.world.working p = .error fault) :
      Writes p content r r' (.error 1)
  | broken (changes : r.Changes {r.placeOf p} r') (cut : r'.Cut p content) :
      Writes p content r r' (.error 1)
  | whole (changes : r.Changes {r.placeOf p} r') (holds : r'.Holds p content) :
      Writes p content r r' (.ok ())

/-- **Writing a file** ends in one of these ways. -/
theorem writes_of_run {p : Path} {content : String} {result : Except Status Unit}
    (h : (writeFile p content).run.run r = (result, r')) : Writes p content r r' result := by
  rw [writeFile, run_changeDisk] at h
  have hends := r.world.disk.overwrites_overwrite r.world.device r.world.working p content
  revert h hends
  generalize r.world.disk.overwrite r.world.device r.world.working p content = attempt
  rintro h hends
  cases hends with
  | unopened hfault =>
    cases h
    exact .unopened rfl rfl hfault
  | broken keeps stops read =>
    cases h
    exact .broken ⟨rfl, .of_keeps keeps⟩ ⟨_, _, stops, read⟩
  | whole keeps read =>
    cases h
    exact .whole ⟨rfl, .of_keeps keeps⟩ read

end Command
end Entigram
