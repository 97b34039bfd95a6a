import Entigram.Config.Check
import Entigram.Config.Tree
import Entigram.Text.Encoding
import Entigram.World

/-!
# Loading the configuration

The configuration comes in layers, each over the one before: a base file, a file for the
environment, and environment variables.  Variables can also stand in files of their own, which are
read first and add what is not set yet.

Whoever asks for it can be told of every step (`Listener`).  Loading stops at the first fault
(`LoadFailure`), also when the listener does not take what it is told; the variables that were added
by then stay.
-/

set_option autoImplicit false

namespace Entigram
namespace Config

/-! ## Requests and results -/

/-- Who is told of the steps. -/
inductive Listener
  | nobody
  /-- Someone who takes a text or complains about it. -/
  | someone (take : String → Except Complaint Unit)

namespace Listener

/-- Does the listener take a text? -/
def hear : Listener → String → Except Complaint Unit
  | nobody, _ => .ok ()
  | someone take, text => take text

/-- What the listener was told when these texts were told. -/
def told : Listener → List String → List String
  | nobody, _ => []
  | someone _, texts => texts

end Listener

/-- What to load. -/
structure LoadRequest where
  /-- The base file; if none is given, the usual places are searched. -/
  file : Option Path := none
  environment : String := "development"
  /-- Whether files with variables are read. -/
  variableFiles : Bool := true
  listener : Listener := .nobody

/-- Why a configuration cannot be loaded. -/
inductive LoadFailure
  /-- The base file that was asked for does not exist. -/
  | noFile (path : Path)
  /-- The configuration has issues. -/
  | invalid (issues : List Issue)
  /-- A file cannot be read. -/
  | unreadable (fault : Disk.Fault)
  /-- A file's text is not a configuration. -/
  | malformed (path : Path) (why : Complaint)
  /-- A file sets a variable that there cannot be. -/
  | noVariable
  /-- The layers do not fit together. -/
  | tree (fault : TreeFault)
  /-- The base file holds something other than an object. -/
  | notAnObject
  /-- The output directory is not a path. -/
  | notAPath
  /-- The user's own directory, where a base file can be, is not known. -/
  | noHome
  /-- A report is not taken. -/
  | refused (why : Complaint)
deriving Repr, DecidableEq

/-- The text of a failure to find the base file. -/
def missingFileMessage (path : Path) : String := s!"Configuration file not found: {path}"

/-- What a step told the console, and its result. -/
abbrev Step (α : Type) := List String × Except LoadFailure α

/-- One step after another: reports are kept, and a failure ends the way. -/
def Step.andThen {α β : Type} (x : Step α) (f : α → Step β) : Step β :=
  match x with
  | (log, .error e) => (log, .error e)
  | (log, .ok a) =>
    let (more, result) := f a
    (log ++ more, result)

/-- Tells a listener something. -/
def tell (listener : Listener) (text : String) : Step Unit :=
  match listener.hear text with
  | .error why => ([], .error (.refused why))
  | .ok () => (listener.told [text], .ok ())

/-- Makes a change and tells a listener of it. -/
def Change.step (listener : Listener) (c : Change) : Step Json :=
  let (c, heard) := c.heardBy listener.hear
  (listener.told c.log, match heard, c.fault with
    | .error why, _ => .error (.refused why)
    | .ok (), some fault => .error (.tree fault)
    | .ok (), none => .ok (.obj c.fields))

/-- A loaded configuration, or the reason why there is none. -/
structure Loaded where
  /-- The variables afterwards. -/
  vars : List (String × String)
  /-- What the listener was told. -/
  log : List String
  result : Except LoadFailure Settings
deriving Repr

/-! ## Files with variables -/

/-- The files that can hold variables, the strongest first. -/
def variableFiles (environment : String) : List Path :=
  [Path.ofString s!".env.{environment}", Path.ofString ".env", Path.ofString "config/.env"]

/-- Adds the variables that are not set yet. -/
def addVariables (vars new : List (String × String)) : List (String × String) :=
  vars ++ new.filter fun p => (vars.lookup p.1).isNone

/-- Can a variable have this name and this value? -/
def isVariable (p : String × String) : Bool :=
  let null := Char.ofNat 0
  !p.1.toList.contains '=' && !p.1.toList.contains null && !p.2.toList.contains null

/-- Adds the variables of a text: the variables afterwards, and whether all of them can be set. -/
def loadText (reader : VariableReader) (vars : List (String × String)) (text : String) :
    List (String × String) × Except LoadFailure Unit :=
  let new := (reader.read vars text).filter fun p => (vars.lookup p.1).isNone
  let possible := new.takeWhile isVariable
  (addVariables vars possible,
    if possible.length = new.length then .ok () else .error .noVariable)

/-- Reads the files with variables that exist, in order: the variables afterwards, and how it
went. -/
def loadVariables (listener : Listener) (w : World) : List Path → List (String × String) × Step Unit
  | [] => (w.vars, [], .ok ())
  | path :: rest =>
    match w.disk.status w.working path with
    | .error fault => (w.vars, [], .error (.unreadable fault))
    | .ok none => loadVariables listener w rest
    | .ok (some node) =>
      match tell listener s!"Loading variables from: [blue]{path}[/blue]" with
      | (log, .error why) => (w.vars, log, .error why)
      | (log, .ok ()) =>
        match loadText w.libraries.variableReader w.vars node.text with
        | (vars, .error why) => (vars, log, .error why)
        | (vars, .ok ()) =>
          let (vars, more, result) := loadVariables listener { w with vars } rest
          (vars, log ++ more, result)

/-! ## Configuration files -/

/-- The value in a configuration file. -/
def readValue (w : World) (path : Path) : Except LoadFailure Json :=
  match w.disk.read w.working path with
  | .error fault => .error (.unreadable fault)
  | .ok text =>
    (w.libraries.readConfiguration (Text.unifyLineEnds text)).mapError (.malformed path)

/-- The first of some paths that leads to something. -/
def firstExisting (w : World) : List Path → Except LoadFailure (Option Path)
  | [] => .ok none
  | path :: rest =>
    match w.disk.status w.working path with
    | .error fault => .error (.unreadable fault)
    | .ok none => firstExisting w rest
    | .ok (some _) => .ok (some path)

/-- The variable that names the user's own directory. -/
def homeVariable : String := "HOME"

/-- The user's own directory: the one that the variable for it names, without slashes at its end, or
else the one that the surroundings have.  A tilde would have to be replaced by that very directory,
so a name that begins with one means nothing. -/
def homeDirectory? (w : World) : Option Path :=
  match w.vars.lookup homeVariable with
  | none => some w.home
  | some text =>
    match Text.trimEndWhile (· = '/') text.toList with
    | [] => some (Path.ofString "/")
    | '~' :: _ => none
    | cs => some (Path.ofString (String.ofList cs))

/-- The places of the base file, one of them in the user's own directory. -/
def basePaths (home : Path) : List Path :=
  [Path.ofString "config/er2code_config.yaml", Path.ofString "config/config.yaml",
    home.join (Path.ofString ".config/er2code/config.yaml")]

/-- The base file: the one that was asked for, or the first of the usual places. -/
def baseFile (w : World) : Option Path → Except LoadFailure (Option Path)
  | some path => .ok (some path)
  | none =>
    match homeDirectory? w with
    | some home => firstExisting w (basePaths home)
    | none => .error .noHome

/-- The places of the file for an environment, seen from the base file if one was asked for. -/
def environmentPaths (file : Option Path) (environment : String) : List Path :=
  let dir := match file with
    | some p => p.parent
    | none => Path.ofString "config"
  let below := dir.join (Path.ofString "environments")
  [below.join (Path.ofString s!"{environment}.yaml"),
    below.join (Path.ofString s!"{environment}.yml"),
    dir.join (Path.ofString s!"{environment}.yaml")]

/-- The base configuration; an empty value stands for an empty object. -/
def loadBase (w : World) (request : LoadRequest) : Step Json :=
  match baseFile w request.file with
  | .error why => ([], .error why)
  | .ok none =>
    (tell request.listener "No base config found, using defaults").andThen fun () =>
      ([], .ok (.obj []))
  | .ok (some path) =>
    (tell request.listener s!"Loading base config: {path}").andThen fun () =>
      ([], (readValue w path).map fun v => if isEmptyValue v then .obj [] else v)

/-- The configuration for the environment, if there is one. -/
def loadEnvironment (w : World) (request : LoadRequest) : Step (Option Json) :=
  match firstExisting w (environmentPaths request.file request.environment) with
  | .error why => ([], .error why)
  | .ok none => ([], .ok none)
  | .ok (some path) =>
    (tell request.listener s!"Loading environment config: {path}").andThen fun () =>
      ([], (readValue w path).map fun v => if isEmptyValue v then none else some v)

/-! ## Layers -/

/-- Merges one layer over another, also when the lower one is no object. -/
def mergeLayers (listener : Listener) (base upper : Json) : Step Json :=
  match base, upper with
  | .obj fields, _ => (merge fields upper).step listener
  | _, .obj fields =>
    ([], if fields.all fun f => isNote f.1 then .ok base else .error (.tree .noKeys))
  | _, _ => ([], .error (.tree .noEntries))

/-- Lets the variables set values, also when the configuration is no object. -/
def overrideLayer (listener : Listener) (vars : List (String × String)) (base : Json) : Step Json :=
  match base with
  | .obj fields => (applyVariables vars fields).step listener
  | _ =>
    ([], if vars.any fun p => setsSomething p.1 then .error (.tree .noEntries) else .ok base)

/-- Checks a whole configuration. -/
def checkAll : Json → Except LoadFailure Settings
  | .obj fields =>
    match settings fields with
    | .ok s => .ok s
    | .issues found => .error (.invalid found)
    | .notAPath => .error .notAPath
  | _ => .error .notAnObject

/-- The layers of a configuration, one over the other. -/
def layers (w : World) (request : LoadRequest) : Step Json :=
  (loadBase w request).andThen fun base =>
    (loadEnvironment w request).andThen fun upper =>
      (match upper with
        | some u => mergeLayers request.listener base u
        | none => ([], .ok base)).andThen (overrideLayer request.listener w.vars)

/-! ## Loading -/

/-- Fails unless the base file that was asked for exists. -/
def checkBaseFile (w : World) : Option Path → Except LoadFailure Unit
  | none => .ok ()
  | some path =>
    match w.disk.status w.working path with
    | .error fault => .error (.unreadable fault)
    | .ok none => .error (.noFile path)
    | .ok (some _) => .ok ()

/-- Loads the configuration. -/
def load (w : World) (request : LoadRequest) : Loaded :=
  let started := (tell request.listener s!"[blue]Environment: {request.environment}[/blue]").andThen
    fun () => ([], checkBaseFile w request.file)
  match started with
  | (log, .error why) => { vars := w.vars, log, result := .error why }
  | (log, .ok ()) =>
    let files := if request.variableFiles then variableFiles request.environment else []
    let (vars, found) := loadVariables request.listener w files
    let (more, tree) := found.andThen fun () => layers { w with vars } request
    { vars, log := log ++ more, result := tree.bind checkAll }

end Config
end Entigram
