import Entigram.Libraries
import Entigram.Moment.Calendar
import Entigram.Moment.Duration
import Entigram.Template

/-!
# Log files that start anew

A log file does not grow for ever: from time to time it starts anew.  Words say when that happens,
and what becomes of what the file held (`Log.Upkeep`).  All of them are read when the file is
opened, and only the first counts here (`Rotation`): what a file held is thrown away at once, where
others would put it aside, pack it and throw it away later.  Nor do files grow old, because the
clock stands still while the program runs.

The name of the file can mention the clock.  It is completed when the file is opened.
-/

set_option autoImplicit false

namespace Entigram
namespace RotatedFile

/-! ## Words about upkeep -/

/-- When a log file starts anew. -/
inductive Rotation
  /-- Before it has more bytes. -/
  | size (bytes : Nat)
  /-- After some time. -/
  | age (length : Duration)
deriving Repr, DecidableEq

namespace Rotation

/-- The thousands that a letter in front of bytes stands for. -/
def thousands : List (String × Nat) := [("k", 1000), ("m", 1000000), ("g", 1000000000)]

/-- A size in words, as far as settings admit it.  A small letter at the end means bits. -/
def size? (s : String) : Option Nat :=
  let cs := Text.trim s.toList
  let digits := cs.takeWhile Text.isDecimalDigit
  match (cs.drop digits.length).dropWhile Text.isBlank with
  | [letter, unit] =>
    (thousands.lookup (String.ofList (Text.foldChar letter))).map fun n =>
      Duration.naturalOf digits * n / (if unit = 'b' then 8 else 1)
  | _ => none

/-- A rotation in words. -/
def ofString (s : String) : Except Duration.Fault Rotation :=
  match size? s with
  | some bytes => .ok (size bytes)
  | none => (Duration.ofString s).map age

end Rotation

/-- The ways to pack files. -/
def packings : List String :=
  ["gz", "bz2", "xz", "lzma", "tar", "tar.gz", "tar.bz2", "tar.xz", "zip"]

/-- Is it a way to pack files?  Points in front do not count. -/
def isPacking (s : String) : Bool :=
  packings.contains (String.ofList ((Text.trim s.toList).dropWhile (· = '.')))

/-- Reads the words: when the file starts anew, if all of them have a meaning. -/
def readUpkeep (u : Log.Upkeep) : Except Duration.Fault Rotation := do
  let rotation ← Rotation.ofString u.rotation
  let _ ← Duration.ofString u.retention
  if isPacking u.compression then return rotation else throw .malformed

/-! ## Adding lines -/

/-- The number of days up to the last one that clocks know. -/
def lastDay : Nat := Moment.daysBefore 10000

/-- Is there a moment so much later? -/
def canPass (now : Moment) (length : Duration) : Bool :=
  let seconds := now.dayNumber * 86400 + now.hour * 3600 + now.minute * 60 + now.second
  decide ((seconds : Int) * 1000000 + now.microsecond + length.microseconds
    < ((lastDay : Int) + 1) * Duration.dayLength)

/-- The files with one more line in a file.  A file that has no room for it starts anew with it; one
whose time has no end, as far as clocks know, is not written to. -/
def withLine (path : Path) (rotation : Rotation) (d : Disk) (working : Place) (now : Moment)
    (line : String) : Except Disk.Fault Disk :=
  match rotation with
  | .size bytes =>
    if bytes < ((d.find? working path).map Node.bytes).getD 0 + line.length then
      d.write working path line
    else d.append working path line
  | .age length => if canPass now length then d.append working path line else .ok d

/-- Only files are changed. -/
theorem directory_of_withLine {path : Path} {rotation : Rotation} {d d' : Disk}
    {working place : Place} {now : Moment} {line : String}
    (h : withLine path rotation d working now line = .ok d')
    (hplace : d.at? place = some .directory) : d'.at? place = some .directory := by
  unfold withLine at h
  split at h
  · split at h
    · exact Disk.directory_of_write h hplace
    · exact Disk.directory_of_write h hplace
  · split at h
    · exact Disk.directory_of_write h hplace
    · obtain rfl := Except.ok.inj h
      exact hplace

/-- A file with this path.  Where a line cannot be added, there is none. -/
def logFile (path : Path) (rotation : Rotation) : LogFile where
  add d working now line := (withLine path rotation d working now line).toOption.getD d
  add_directory d working now line place h := by
    cases hline : withLine path rotation d working now line with
    | ok d' => exact directory_of_withLine hline h
    | error fault => exact h

/-! ## Opening -/

/-- Why a log file cannot be opened. -/
inductive Fault
  /-- Its name cannot be completed by the clock. -/
  | name (why : Template.Fault)
  /-- The words about its upkeep have no meaning. -/
  | upkeep (why : Duration.Fault)
  | file (why : Disk.Fault)
deriving Repr, DecidableEq

/-- What the name of a log file can mention. -/
def timeValue (now : Moment) : String → Option Template.Value
  | "time" => some (.clock now)
  | _ => none

-- `address` says where a value is kept.
variable (address : Template.Value → String)

/-- The path of a log file, completed by the clock. -/
def completePath (working : Place) (now : Moment) (path : Path) : Except Template.Fault Path := do
  let completed ← Template.resolve address (timeValue now) path.toString
  return Disk.absolute working (Path.ofString completed)

/-- Opens a log file whose path is complete, in a directory that is made if it is missing. -/
def openCompleted (d : Disk) (working : Place) (path : Path) (rotation : Rotation) :
    Disk × Except Fault LogFile :=
  match d.makeDirectory working path.parent with
  | (d, .error e) => (d, .error (.file e))
  | (d, .ok ()) =>
    match d.append working path "" with
    | .error e => (d, .error (.file e))
    | .ok d => (d, .ok (logFile path rotation))

/-- Opens a log file.  Everything that is said about it is looked at first. -/
def openFile (d : Disk) (working : Place) (now : Moment) (path : Path) (upkeep : Log.Upkeep) :
    Disk × Except Fault LogFile :=
  let prepared : Except Fault (Path × Rotation) := do
    if !Template.isWellFormed path.toString then throw (.name .malformed)
    let rotation ← (readUpkeep upkeep).mapError .upkeep
    let target ← (completePath address working now path).mapError .name
    return (target, rotation)
  match prepared with
  | .error e => (d, .error e)
  | .ok (target, rotation) => openCompleted d working target rotation

end RotatedFile
end Entigram
