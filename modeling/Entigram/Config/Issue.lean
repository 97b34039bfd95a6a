import Entigram.Json.Text
import Entigram.Target

/-!
# What can be wrong with a configuration

An issue is a place in the configuration, as the keys that lead to it, and a cause.  A cause is
either of the wrong type or a value that its setting rejects; the texts of both are functions of the
cause.
-/

set_option autoImplicit false

namespace Entigram
namespace Config

/-- The levels that settings can name, by name. -/
def settableLevels : List Log.Level := [.critical, .debug, .error, .info, .success, .warning]

/-- Why a setting rejects a value of the right type. -/
inductive Rejection
  | logLevel
  | moduleLevel (level component : String)
  /-- Placeholders that a path template does not know, in order and without repetition. -/
  | placeholders (names : List String)
  | rotation
  | format
  | target
  | contextName (name : String)
  | declaredNamespace (name : String)
deriving Repr, DecidableEq

/-- Names as a listing shows them. -/
def listing (names : List String) : String :=
  "[" ++ ", ".intercalate (names.map fun n => s!"'{n}'") ++ "]"

/-- The text of a rejection. -/
def Rejection.message : Rejection → String
  | logLevel => s!"log_level must be one of {listing (settableLevels.map Log.Level.name)}"
  | moduleLevel level component => s!"Invalid log level '{level}' for module '{component}'"
  | placeholders names =>
    s!"Invalid placeholders in path: {(Json.arr (names.map .str)).text .inline}"
  | rotation => "rotation must be in format like '10 MB', '1 GB', or '1 day'"
  | format => "format must be 'simple' or 'detailed'"
  | target => s!"target must be one of {listing (Target.all.map Target.name)}"
  | contextName name => s!"context_name must be a valid identifier, got '{name}'"
  | declaredNamespace name => s!"namespace must be a dotted identifier, got '{name}'"

/-- What is wrong with a value. -/
inductive Cause
  | notText
  | notFlag
  /-- Text or a number that says neither yes nor no. -/
  | unreadableFlag
  | notDictionary
  /-- Not the fields of a group of settings. -/
  | notSection (name : String)
  | rejected (why : Rejection)
deriving Repr, DecidableEq

namespace Cause

/-- The tag of a cause. -/
def kind : Cause → String
  | notText => "string_type"
  | notFlag => "bool_type"
  | unreadableFlag => "bool_parsing"
  | notDictionary => "dict_type"
  | notSection _ => "model_type"
  | rejected _ => "value_error"

/-- The text of a cause. -/
def message : Cause → String
  | notText => "Input should be a valid string"
  | notFlag => "Input should be a valid boolean"
  | unreadableFlag => "Input should be a valid boolean, unable to interpret input"
  | notDictionary => "Input should be a valid dictionary"
  | notSection name => s!"Input should be a valid dictionary or instance of {name}"
  | rejected why => s!"Value error, {why.message}"

end Cause

/-- A place in a configuration and what is wrong there. -/
structure Issue where
  place : List String
  cause : Cause
deriving Repr, DecidableEq

end Config
end Entigram
