import Entigram.Disk
import Entigram.Json.Basic
import Entigram.Moment

/-!
# What the program builds on

Some of the work is left to others: reading the files of a configuration and the files with
variables, checking what the console is to show, and keeping log files.  What they make of it is a
part of the surroundings (`Libraries`), and the program relies on no more than is said here.

What they do not take they complain about.  The program does not look at what they say.
-/

set_option autoImplicit false

namespace Entigram

/-- What is said of something that is not taken. -/
abbrev Complaint := String

/-- A reader of files with variables. -/
structure VariableReader where
  /-- The variables that a text sets, in surroundings that have some already: values can mention
  these. -/
  read : List (String × String) → String → List (String × String)
  /-- Names stand in the text as they are. -/
  map_fst_read : ∀ vars vars' text, (read vars text).map Prod.fst = (read vars' text).map Prod.fst

namespace Log

/-- The words of the settings about the upkeep of a log file: when it starts anew, how long what it
held is kept, and how that is packed. -/
structure Upkeep where
  rotation : String := "10 MB"
  retention : String := "30 days"
  compression : String := "gz"
deriving Repr, DecidableEq

end Log

/-- A log file that was opened. -/
structure LogFile where
  /-- The files after a line was added, seen from a directory at a moment.  The line can be the one
  for which the file starts anew, and then others are renamed, packed and removed. -/
  add : Disk → Place → Moment → String → Disk
  /-- Upkeep is about files: it takes away no directories. -/
  add_directory : ∀ d working now line place, d.at? place = some .directory →
    (add d working now line).at? place = some .directory

/-- What others do for the program. -/
structure Libraries where
  /-- Reads the text of a configuration file: the value that it holds. -/
  readConfiguration : String → Except Complaint Json
  variableReader : VariableReader
  /-- Complains about what the console cannot show as markup. -/
  checkMarkup : String → Except Complaint Unit
  /-- A line of output without codes for screens. -/
  withoutControlCodes : String → String
  /-- Opens a log file, with words about its upkeep: the files afterwards, and what was opened. -/
  openLog : Disk → Place → Moment → Path → Log.Upkeep → Disk × Except Complaint LogFile

end Entigram
