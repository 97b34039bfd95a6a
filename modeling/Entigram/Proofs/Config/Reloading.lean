import Entigram.Proofs.Config.Failure
import Entigram.Proofs.Config.Variables
import Entigram.Standard

/-!
# Loading the configuration again

Loading changes its surroundings: variables from files become variables of the environment.  What
comes next could see them and come to something else.

It does not (`load_again`).  The layers are only read once all variables are there
(`load_of_loadVariables`), and these are the ones that the second load starts with.
-/

set_option autoImplicit false

namespace Entigram
namespace Config

/-- The files with variables that a request reads. -/
def LoadRequest.files (request : LoadRequest) : List Path :=
  if request.variableFiles then Config.variableFiles request.environment else []

variable {w w' : World} {request : LoadRequest} {vars : List (String × String)}

/-! ## What loading depends on -/

section congr

variable (hfiles : w.SameFiles w')

include hfiles

theorem firstExisting_congr (paths : List Path) :
    firstExisting w' paths = firstExisting w paths := by
  induction paths with
  | nil => rfl
  | cons path rest ih => rw [firstExisting, firstExisting, hfiles.disk, hfiles.working, ih]

theorem readValue_congr (path : Path) : readValue w' path = readValue w path := by
  rw [readValue, readValue, hfiles.disk, hfiles.working, hfiles.libraries]

theorem checkBaseFile_congr (file : Option Path) :
    checkBaseFile w' file = checkBaseFile w file := by
  cases file with
  | none => rfl
  | some path => rw [checkBaseFile, checkBaseFile, hfiles.disk, hfiles.working]

theorem loadEnvironment_congr (request : LoadRequest) :
    loadEnvironment w' request = loadEnvironment w request := by
  unfold loadEnvironment
  rw [firstExisting_congr hfiles]
  simp only [readValue_congr hfiles]

variable (hvars : w'.vars = w.vars)

include hvars

theorem baseFile_congr (file : Option Path) : baseFile w' file = baseFile w file := by
  cases file with
  | some path => rfl
  | none =>
    have hhome : homeDirectory? w' = homeDirectory? w := by
      rw [homeDirectory?, homeDirectory?, hvars, hfiles.home]
    unfold baseFile
    rw [hhome]
    simp only [firstExisting_congr hfiles]

theorem loadBase_congr (request : LoadRequest) : loadBase w' request = loadBase w request := by
  unfold loadBase
  rw [baseFile_congr hfiles hvars]
  simp only [readValue_congr hfiles]

/-- The layers depend on the files and on the variables, and on nothing else that is around. -/
theorem layers_congr (request : LoadRequest) : layers w' request = layers w request := by
  unfold layers
  rw [loadBase_congr hfiles hvars, hvars]
  simp only [loadEnvironment_congr hfiles]

end congr

/-! ## One load -/

theorem tell_of_takes {listener : Listener} {text : String} (h : listener.Takes text) :
    tell listener text = (listener.told [text], .ok ()) := by
  rw [Listener.Takes] at h
  rw [tell, h]

theorem takes_of_tell {listener : Listener} {text : String} {told : List String} {u : Unit}
    (h : tell listener text = (told, .ok u)) : listener.Takes text := by
  rw [tell] at h
  split at h
  · cases h
  · next htakes => exact htakes

/-- The steps up to the layers can be made: the base file is there if one was asked for, its report
is taken, and what the files with variables set can be set. -/
structure ReadsVariables (w : World) (request : LoadRequest) (vars : List (String × String))
    (log : List String) : Prop where
  base : checkBaseFile w request.file = .ok ()
  takes : request.listener.Takes (startText request)
  read : loadVariables request.listener w request.files = (vars, log, .ok ())

/-- What is told of a load: how it starts, the files with variables, and the layers. -/
def LoadRequest.told (request : LoadRequest) (log more : List String) : List String :=
  (request.listener.told [startText request]) ++ (log ++ more)

/-- **A load** whose variables can be read.  All that follows sees them as they are in the end. -/
theorem load_of_loadVariables {log : List String} (h : ReadsVariables w request vars log) :
    load w request =
      { vars
        log := request.told log (layers { w with vars } request).1
        result := (layers { w with vars } request).2.bind checkAll } := by
  have hstart : tell request.listener s!"[blue]Environment: {request.environment}[/blue]" =
      (request.listener.told [startText request], .ok ()) :=
    tell_of_takes h.takes
  have hread : loadVariables request.listener w
      (if request.variableFiles then variableFiles request.environment else []) =
        (vars, log, .ok ()) := h.read
  unfold load
  rw [hstart, h.base]
  simp only [Step.andThen, hread, List.append_nil]
  rfl

/-- Only then there are settings. -/
theorem exists_readsVariables {settings : Settings} (h : (load w request).result = .ok settings) :
    ∃ log, ReadsVariables w request (load w request).vars log := by
  revert h
  unfold load
  cases htold : tell request.listener s!"[blue]Environment: {request.environment}[/blue]" with
  | mk told heard =>
    cases heard with
    | error why => exact nofun
    | ok u =>
      have htakes : request.listener.Takes (startText request) := takes_of_tell htold
      cases hbase : checkBaseFile w request.file with
      | error why => exact nofun
      | ok u =>
        simp only [Step.andThen]
        cases hread : loadVariables request.listener w
          (if request.variableFiles then variableFiles request.environment else []) with
        | mk vars found =>
          obtain ⟨log, result⟩ := found
          cases result with
          | error why => exact nofun
          | ok u => exact fun _ => ⟨log, hbase, htakes, hread⟩

/-! ## The next load -/

/-- **The next load reads what is there.**  Its variables are those that it finds. -/
theorem ReadsVariables.again {log : List String} (h : ReadsVariables w request vars log)
    (hfiles : w.SameFiles w') (hvars : w'.vars = vars) : ReadsVariables w' request vars log where
  base := (checkBaseFile_congr hfiles _).trans h.base
  takes := h.takes
  read := by
    have hset : ∀ name, (vars.lookup name).isSome = true → (w'.vars.lookup name).isSome = true := by
      rw [hvars]
      exact fun _ hset => hset
    rw [loadVariables_again hfiles h.read hset, hvars]

/-- **Loading twice is harmless.**  Where a load comes to settings, all of it sees the same
variables: one has the value that it had before, or else the value from the first file that sets it.
The next load, with the same files and the variables that this one leaves, comes to the same
settings and tells the same, and it leaves the variables as they are. -/
theorem load_again {settings : Settings} (h : (load w request).result = .ok settings)
    (hfiles : w.SameFiles w') (hvars : w'.vars = (load w request).vars) :
    (load w' request).result = .ok settings ∧ (load w' request).log = (load w request).log ∧
    (load w' request).vars = w'.vars ∧
    (layers { w with vars := (load w request).vars } request).2.bind checkAll = .ok settings ∧
    ∀ name, (load w request).vars.lookup name =
      (w.vars.lookup name).or (firstSetting w name request.files) := by
  obtain ⟨log, hreads⟩ := exists_readsVariables h
  have hfirst := load_of_loadVariables hreads
  have hnext := load_of_loadVariables (hreads.again hfiles hvars)
  have hlayers : layers { w' with vars := (load w request).vars } request =
      layers { w with vars := (load w request).vars } request :=
    layers_congr (hfiles.withVars _ _) rfl request
  rw [hlayers] at hnext
  have hsame : load w' request = load w request := hnext.trans hfirst.symm
  refine ⟨by rw [hsame, h], by rw [hsame], by rw [hsame, hvars], ?_, ?_⟩
  · rw [← h]
    exact (congrArg Loaded.result hfirst).symm
  · exact lookup_loadVariables hreads.read

/-- Two files with variables.  The first mentions one that only the second sets. -/
def shelf : World where
  disk := { nodes :=
    [([".env.test"], .file "ER2CODE_GLOBAL_LOG_LEVEL=$\x7bLEVEL:-DEBUG\x7d\n"),
      ([".env"], .file "ER2CODE_GLOBAL_LOG_LEVEL=ERROR\nLEVEL=WARNING\n")] }
  now := default
  libraries := .standard fun _ => ""

def shelfRequest : LoadRequest where
  environment := "test"

/-- Another load sees the level that the first file mentions, and what it comes to is the same. -/
theorem load_again_shelf :
    let w' := { shelf with vars := (load shelf shelfRequest).vars }
    w'.vars = [("ER2CODE_GLOBAL_LOG_LEVEL", "DEBUG"), ("LEVEL", "WARNING")] ∧
    (load shelf shelfRequest).result = .ok { general := { logLevel := .debug } } ∧
    (load w' shelfRequest).result = .ok { general := { logLevel := .debug } } ∧
    (load w' shelfRequest).vars = w'.vars := by
  have h : (load shelf shelfRequest).result = .ok { general := { logLevel := .debug } } := by
    decide +kernel
  have hfiles : shelf.SameFiles { shelf with vars := (load shelf shelfRequest).vars } :=
    ⟨rfl, rfl, rfl, rfl⟩
  have hagain := load_again h hfiles rfl
  exact ⟨by decide +kernel, h, hagain.1, hagain.2.2.1⟩

/-- A request that leaves the files with variables alone does not see what they set. -/
theorem load_without_files :
    let request := { shelfRequest with variableFiles := false }
    (load shelf request).vars.lookup "ER2CODE_GLOBAL_LOG_LEVEL" = none ∧
    firstSetting shelf "ER2CODE_GLOBAL_LOG_LEVEL" (variableFiles "test") = some "DEBUG" ∧
    (load shelf request).result = .ok {} := by
  decide +kernel

end Config
end Entigram
