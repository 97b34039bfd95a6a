import Entigram.Console.ControlCode
import Entigram.Console.Markup
import Entigram.Standard.RotatedFile
import Entigram.Standard.VariableFile
import Entigram.World
import Entigram.Yaml.Value

/-!
# What the program comes with

Readers, a check and log files that the program can be run with (`Libraries.standard`).  Nothing
else in the program depends on them: whatever else does the same work can take their place.
-/

set_option autoImplicit false

namespace Entigram

/-- The libraries that the program comes with.  Collections in a file can lie as deep in one another
as its length admits. -/
def Libraries.standard (address : Template.Value → String) : Libraries where
  readConfiguration text :=
    (Json.ofYaml text text.length).mapError fun fault => toString (repr fault)
  variableReader := VariableFile.reader
  checkMarkup text := (Console.checkMarkup text).mapError fun fault => toString (repr fault)
  withoutControlCodes := Console.withoutControlCodes
  openLog d working now path upkeep :=
    let (d, result) := RotatedFile.openFile address d working now path upkeep
    (d, result.mapError fun fault => toString (repr fault))

end Entigram
