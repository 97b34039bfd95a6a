import Entigram.Config.Check
import Entigram.Moment
import Entigram.Template

/-!
# The path of the log file

The settings hold a template of the path; the environment's name and the clock complete it.
Settings that were checked mention no other placeholder, but their braces can still be out of
order.
-/

set_option autoImplicit false

namespace Entigram
namespace Config

/-- What the placeholders of a path stand for. -/
def placeholderValue (environment : String) (now : Moment) : String → Option Template.Value
  | "environment" => some (.ofString environment)
  | "date" => some (.ofString now.compactDate)
  | "datetime" => some (.ofString now.compact)
  | _ => none

/-- The path of the log file.  `address` says where values are kept. -/
def FileLogging.resolvedPath (f : FileLogging) (address : Template.Value → String)
    (environment : String) (now : Moment) : Except Template.Fault Path :=
  (Template.resolve address (placeholderValue environment now) f.path).map Path.ofString

/-- The path of the log file, if logging to a file is enabled. -/
def FileLogging.path? (f : FileLogging) (address : Template.Value → String) (environment : String)
    (now : Moment) : Except Template.Fault (Option Path) :=
  if f.enabled then (f.resolvedPath address environment now).map some else .ok none

end Config
end Entigram
