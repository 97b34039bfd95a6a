import Entigram.Config.Loading
import Entigram.Config.LogFile
import Entigram.Log.Sink

/-!
# The logger

The logger is set up once, from the configuration, and then sends every record to its sinks.  Before
it is set up, and after it is reset, records go nowhere.

Setting up can fail on the way: what was done by then stays.  So a console that was connected before
the log file could not be opened goes on showing records, although the logger does not count as
configured.
-/

set_option autoImplicit false

namespace Entigram
namespace Log

/-- The state of the logger. -/
structure Logger where
  configured : Bool := false
  level : Level := .info
  /-- The log file, as it was asked for. -/
  file : Option Path := none
  environment : String := "development"
  console : Option ConsoleSink := none
  fileSink : Option FileSink := none
deriving Inhabited

/-- How to set the logger up. -/
structure SetupRequest where
  /-- Show everything, whatever the configuration says. -/
  verbose : Bool := false
  /-- A log file instead of the configured one. -/
  logFile : Option Path := none
  environment : String := "development"
  /-- The base file of the configuration. -/
  configFile : Option Path := none
deriving Repr

/-- The configuration that a setup loads. -/
def SetupRequest.loadRequest (r : SetupRequest) : Config.LoadRequest where
  file := r.configFile
  environment := r.environment

/-- Why the logger cannot be set up. -/
inductive SetupFailure
  | config (why : Config.LoadFailure)
  /-- The configured path of the log file cannot be completed. -/
  | path (why : Template.Fault)
  /-- The directory of the log file cannot be made. -/
  | directory (why : Disk.Fault)
  /-- The log file cannot be opened. -/
  | file (why : Complaint)
deriving Repr, DecidableEq

/-- Why the logger cannot be shown. -/
inductive ShowFailure
  /-- The console refuses a text. -/
  | refused (why : Complaint)
  /-- The log file cannot be looked at. -/
  | file (why : Disk.Fault)
deriving Repr, DecidableEq

namespace Logger

/-! ## Records -/

/-- Sends a record to the file. -/
def record (l : Logger) (w : World) (r : Record) : World :=
  match l.fileSink with
  | some sink =>
    if sink.accepts r then
      { w with disk := sink.file.add w.disk w.working w.now (FileSink.line w.now r) }
    else w
  | none => w

/-- What the console prints for a record. -/
def prints (l : Logger) (w : World) (r : Record) : List Console.Print :=
  match l.console with
  | some sink => sink.prints w r
  | none => []

/-- Sends records to the sinks: the surroundings afterwards, and what the console printed. -/
def emit (l : Logger) (w : World) (rs : List Record) : World × List Console.Print :=
  (rs.foldl l.record w, rs.flatMap (l.prints w))

/-! ## Setting up -/

/-- The words of settings about the upkeep of the log file. -/
def upkeepOf (f : Config.FileLogging) : Upkeep where
  rotation := f.rotation
  retention := f.retention
  compression := f.compression

/-- Opens the log file that was asked for, in a directory that is made if it is missing. -/
def openFile (w : World) (path : Path) (upkeep : Upkeep) (level : Level) :
    World × Except SetupFailure FileSink :=
  match w.disk.makeDirectory w.working path.parent with
  | (disk, .error e) => ({ w with disk }, .error (.directory e))
  | (disk, .ok ()) =>
    match w.libraries.openLog disk w.working w.now path upkeep with
    | (disk, .error e) => ({ w with disk }, .error (.file e))
    | (disk, .ok file) => ({ w with disk }, .ok { level, file })

/-- The record that ends a setup. -/
def readyRecord (l : Logger) : Record where
  level := .debug
  origin := { component := "er2code.utils.logging", operation := "setup" }
  message :=
    let file := match l.file with
      | some p => p.toString
      | none => "None"
    s!"er2code logging initialized (level={l.level.name}, env={l.environment}, file={file})"

/-- What a step leaves behind: the logger, the surroundings, what the console printed, and how it
ended. -/
structure Outcome where
  logger : Logger
  world : World
  prints : List Console.Print := []
  result : Except SetupFailure Unit := .ok ()

/-- Ends a setup: the logger counts as configured and says so. -/
def ready (l : Logger) (w : World) : Outcome :=
  let l := { l with configured := true }
  let (world, prints) := l.emit w [l.readyRecord]
  { logger := l, world, prints }

/-- Connects the sinks that settings ask for. -/
def connect (l : Logger) (w : World) (request : SetupRequest) (settings : Config.Settings)
    (configured : Option Path) : Outcome :=
  let level := if request.verbose then .debug else settings.general.logLevel
  let l := { l with
    level
    console := some (.ofSettings level request.verbose settings.general.logging)
    fileSink := none }
  let asked := request.logFile.map fun path => (path, ({} : Upkeep))
  let file := settings.general.logging.file
  match asked.or (configured.map fun path => (path, upkeepOf file)) with
  | none => l.ready w
  | some (path, upkeep) =>
    let l := { l with file := some path }
    match openFile w path upkeep level with
    | (w, .error e) => { logger := l, world := w, result := .error e }
    | (w, .ok sink) => { l with fileSink := some sink }.ready w

/-- Sets the logger up from the configuration.  A logger that is configured stays as it is. -/
def setup (l : Logger) (w : World) (request : SetupRequest) : Outcome :=
  if l.configured then { logger := l, world := w }
  else
    let l := { l with environment := request.environment }
    let loaded := Config.load w request.loadRequest
    let w := { w with vars := loaded.vars }
    match loaded.result with
    | .error e => { logger := l, world := w, result := .error (.config e) }
    | .ok settings =>
      match settings.general.logging.file.path? w.address request.environment w.now with
      | .error e => { logger := l, world := w, result := .error (.path e) }
      | .ok path => l.connect w request settings path

/-- Forgets the setup. -/
def reset (l : Logger) : Logger :=
  { l with configured := false, file := none, console := none, fileSink := none }

/-! ## Information -/

/-- A number of hundredths with two places. -/
def hundredths (n : Nat) : String := s!"{n / 100}.{Moment.padded 2 (n % 100)}"

/-- A size in megabytes with two places; a half goes to the even neighbour. -/
def megabytes (bytes : Nat) : String :=
  let unit := 1024 * 1024
  let low := bytes * 100 / unit
  let rest := 2 * (bytes * 100 % unit)
  hundredths (if rest > unit || (rest = unit && low % 2 = 1) then low + 1 else low)

/-- The size of what a path leads to, if it exists. -/
def sizeOf? (w : World) (path : Path) : Except Disk.Fault (Option Nat) :=
  (w.disk.status w.working path).map fun node => node.map Node.bytes

/-- What there is to show about the logger without a look at the log file. -/
def summary (l : Logger) : List String :=
  let file := match l.file with
    | some path => path.toString
    | none => "None"
  ["[bold]Logging Configuration:[/bold]", s!"  Environment: {l.environment}",
    s!"  Level: {l.level.name}", s!"  Log file: {file}"]

/-- What there is to show about the log file, if it exists. -/
def fileSummary (l : Logger) (w : World) : Except Disk.Fault (List String) :=
  match l.file with
  | none => .ok []
  | some path => do
    match ← sizeOf? w path with
    | some bytes => return [s!"  File size: {megabytes bytes} MB"]
    | none => return []

/-- Shows what there is about the logger, text by text: what the console printed, and how it
ended. -/
def showInformation (l : Logger) (w : World) : List Console.Print × Except ShowFailure Unit :=
  match Console.printAll w.libraries.checkMarkup l.summary with
  | (prints, .error why) => (prints, .error (.refused why))
  | (prints, .ok ()) =>
    match l.fileSummary w with
    | .error fault => (prints, .error (.file fault))
    | .ok lines => (prints ++ lines.map .markup, .ok ())

end Logger

end Log
end Entigram
