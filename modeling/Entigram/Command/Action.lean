import Entigram.Command.Options
import Entigram.Command.Table
import Entigram.Log.Logger

/-!
# What a command does

A command changes files, sends records to the logger, prints, and may end the run before its end.
All of that is a state (`Run`) and a status to end with (`Status`): 0 for success, 1 for a failure,
2 for a mistake on the command line.  Whatever was done before the end stays done.
-/

set_option autoImplicit false

namespace Entigram
namespace Command

/-! ## Runs -/

/-- Everything that a run changes. -/
structure Run where
  world : World
  logger : Log.Logger := {}
  /-- What the logger's console printed. -/
  prints : List Console.Print := []
  output : String := ""
  /-- The lines of the error output. -/
  errors : List String := []
  tables : List Table := []

/-- How a run ends before its end. -/
abbrev Status := Nat

/-- A part of a run, which may end the run. -/
abbrev Action := ExceptT Status (StateM Run)

/-- Ends the run. -/
def stop {α : Type} (status : Status) : Action α := throw status

/-- Writes a line to the error output. -/
def complain (line : String) : Action Unit :=
  modify fun r => { r with errors := r.errors ++ [line] }

/-- Ends the run because of a mistake on the command line.  A path that nothing can have is no
mistake but a failure. -/
def misuse {α : Type} (e : UsageError) : Action α := do
  complain s!"Error: {e.message}"
  stop (if e = .nullCharacter then 1 else 2)

/-- Ends the run because of a failure. -/
def fail {α : Type} (line : String) : Action α := do
  complain line
  stop 1

/-- A result that has to be there. -/
def orMisuse {α : Type} : Except UsageError α → Action α
  | .ok a => pure a
  | .error e => misuse e

/-- Writes a line, without control codes. -/
def printLine (line : String) : Action Unit :=
  modify fun r =>
    { r with output := r.output ++ r.world.libraries.withoutControlCodes line ++ "\n" }

/-- Sends records to the logger. -/
def report (records : List Log.Record) : Action Unit :=
  modify fun r =>
    let (world, prints) := r.logger.emit r.world records
    { r with world, prints := r.prints ++ prints }

/-- Where the records of the command line come from. -/
def origin (operation : String) : Log.Origin := { component := "er2code.cli.main", operation }

/-! ## Faults in words -/

/-- A fault of the file system in words. -/
def faultText : Disk.Fault → String
  | .missing => "No such file or directory"
  | .isDirectory => "Is a directory"
  | .notDirectory => "Not a directory"
  | .alreadyExists => "File exists"
  | .tooLong => "File name too long"
  | .nullCharacter => "embedded null byte"
  | .incomplete => "Input/output error"

/-- An issue in words. -/
def issueText (i : Config.Issue) : String := ".".intercalate i.place ++ ": " ++ i.cause.message

/-- Ends the run because the configuration cannot be loaded. -/
def failLoad {α : Type} : Config.LoadFailure → Action α
  | .noFile path => fail s!"Configuration error: {Config.missingFileMessage path}"
  | .invalid issues =>
    fail ("Configuration error: Invalid configuration: "
      ++ "; ".intercalate (issues.map issueText))
  | .unreadable fault => fail s!"Error: {faultText fault}"
  | .malformed path _ => fail s!"Error: {path} cannot be read as a configuration"
  | .noVariable => fail "Error: there can be no such variable"
  | .tree _ => fail "Error: the configuration's layers do not fit together"
  | .notAnObject => fail "Error: the configuration is not an object"
  | .notAPath => fail "Error: output_dir is not a path"
  | .noHome => fail "Error: the user's own directory is not known"
  | .refused _ => fail "Error: a report is no well-formed markup"

/-- Ends the run because the logger cannot be set up. -/
def failSetup {α : Type} : Log.SetupFailure → Action α
  | .config why => failLoad why
  | .path _ => fail "Error: the log file's path cannot be completed"
  | .directory fault => fail s!"Error: {faultText fault}"
  | .file _ => fail "Error: the log file cannot be opened"

/-- Changes the files.  A fault ends the run, and what was changed before it stays. -/
def changeDisk (change : World → Disk.Attempt) : Action Unit := do
  let r ← get
  let (disk, result) := change r.world
  set { r with world := { r.world with disk } }
  match result with
  | .ok () => pure ()
  | .error fault => fail s!"Error: {faultText fault}"

/-- Makes a directory and those above it, where they do not exist. -/
def makeDirectory (p : Path) : Action Unit := changeDisk fun w => w.disk.makeDirectory w.working p

/-- Gives a file a content, as far as the device takes it. -/
def writeFile (p : Path) (content : String) : Action Unit :=
  changeDisk fun w => w.disk.overwrite w.device w.working p content

end Command
end Entigram
