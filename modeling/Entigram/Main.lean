import Entigram.Command.Reach
import Entigram.Command.Run
import Entigram.Standard
import Std.Time.Format

/-!
# The program

The command line tool.  It looks at the files that a run can see, carries the run out as a
computation, and then makes the changes and writes the texts that the run left behind.
-/

set_option autoImplicit false

namespace Entigram

/-! ## What surrounds the program -/

/-- The system's name of a place. -/
def systemName (place : Place) : String := "/" ++ "/".intercalate place

/-- Adds what the system has in a place. -/
def look (disk : Disk) (place : Place) : IO Disk := do
  let path := (← IO.currentDir) / systemName place
  if ← path.isDir then return disk.set place .directory
  else if ← path.pathExists then return disk.set place (.file (← IO.FS.readFile path))
  else return disk

/-- Adds what the system has in all places that paths lead through. -/
def lookAlong (w : World) (paths : List Path) : IO World := do
  let places := (paths.flatMap (Disk.way w.working)).eraseDups
  return { w with disk := ← places.foldlM look w.disk }

/-- The environment variables, in the system's order. -/
def readVariables : IO (List (String × String)) := do
  let text ← try IO.FS.readFile "/proc/self/environ" catch _ => pure ""
  let lines := (Text.splitWhere (· = Char.ofNat 0) text.toList).filter fun cs => cs.contains '='
  return lines.map fun cs =>
    (String.ofList (cs.takeWhile (· ≠ '=')), String.ofList ((cs.dropWhile (· ≠ '=')).drop 1))

/-- The moment that the clock shows. -/
def readClock : IO Moment := do
  let t ← Std.Time.PlainDateTime.now
  return {
    year := t.date.year.toInt.toNat
    month := t.date.month.val.toNat
    day := t.date.day.val.toNat
    hour := t.time.hour.val.toNat
    minute := t.time.minute.val.toNat
    second := t.time.second.val.toNat }

/-- The text for where values are kept, of which the program knows nothing. -/
def address : Template.Value → String := fun _ => "0x0"

/-- The world without files. -/
def readSurroundings : IO World := do
  return {
    working := (Path.ofString (← IO.currentDir).toString).names
    vars := ← readVariables
    now := ← readClock
    elapsed := "0"
    platform := "none"
    address
    libraries := .standard address }

/-- Where the log file of a path can be: its name can mention the clock. -/
def logPaths (w : World) (path : Path) : List Path :=
  path :: (RotatedFile.completePath w.address w.working w.now path).toOption.toList

/-- The rest of a stream. -/
partial def readRest (input : IO.FS.Stream) (before : String) : IO String := do
  let line ← input.getLine
  if line.isEmpty then return before else readRest input (before ++ line)

/-! ## What a run leaves behind -/

/-- Makes a change in the system. -/
def settle (before : Disk) (entry : Place × Node) : IO Unit :=
  if before.at? entry.1 = some entry.2 then pure ()
  else match entry.2 with
    | .directory => IO.FS.createDirAll (systemName entry.1)
    | .file content => IO.FS.writeFile (systemName entry.1) content

/-- A table as lines of text. -/
def tableLines (t : Command.Table) : List String :=
  t.title :: (t.columns :: t.rows.map (·.cells)).map (" | ".intercalate ·)

/-- What a reader sees of a print. -/
def visible : Console.Print → String
  | .markup s => Console.plainText s
  | .plain s => s

/-- Runs the program. -/
def runProgram (words : List String) : IO UInt32 := do
  let bare ← readSurroundings
  let readable ← lookAlong bare (Command.sourcePaths bare words)
  let world ← lookAlong readable (Command.targetPaths (logPaths readable) readable words)
  let input ← if words.contains "-" then readRest (← IO.getStdin) "" else pure ""
  let (status, r) := Command.run world input words
  r.world.disk.nodes.reverse.forM (settle world.disk)
  IO.print r.output
  (r.tables.flatMap tableLines).forM IO.println
  (r.prints.map visible).forM IO.eprintln
  r.errors.forM IO.eprintln
  return UInt32.ofNat status

end Entigram

/-- The program's entry. -/
def main (words : List String) : IO UInt32 := do
  try Entigram.runProgram words
  catch e =>
    IO.eprintln s!"Error: {e}"
    return 1
