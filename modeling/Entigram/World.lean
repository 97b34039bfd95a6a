import Entigram.Libraries
import Entigram.Template.Value

/-!
# The surroundings of a run

Everything that the program can see besides its arguments: files, variables and the clock, and what
it builds on.  The program is a function of them, so a run can be repeated and reasoned about.
-/

set_option autoImplicit false

namespace Entigram

/-- What surrounds a run of the program. -/
structure World where
  /-- The file system. -/
  disk : Disk := {}
  /-- The device that takes the contents of files. -/
  device : Disk.Device := fun _ _ _ => none
  /-- The directory that relative paths start from. -/
  working : Place := []
  /-- The user's own directory, if no variable names it. -/
  home : Path := { root := "/", names := [] }
  /-- The environment variables, in order. -/
  vars : List (String × String) := []
  /-- What the clock shows. -/
  now : Moment
  /-- The text shown for the time that a step took. -/
  elapsed : String := ""
  /-- The version of what the program runs on. -/
  platform : String := ""
  /-- Where the values of templates are kept. -/
  address : Template.Value → String := fun _ => ""
  libraries : Libraries

end Entigram
