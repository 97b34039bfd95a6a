import Entigram.Json.Basic
import Entigram.Number.Shortest
import Entigram.Text.Quoted

/-!
# Values in messages

How a message shows a value of a configuration: text as it is, but quoted where it stands inside an
array or an object.
-/

set_option autoImplicit false

namespace Entigram
namespace Config

mutual

/-- A value inside another one. -/
def shownInside : Json → String
  | .null => "None"
  | .bool b => if b then "True" else "False"
  | .int n => toString n
  | .real x => x.text "inf"
  | .str s => Text.quoted s.toList
  | .arr items => "[" ++ ", ".intercalate (shownItems items) ++ "]"
  | .obj fields => "\x7b" ++ ", ".intercalate (shownFields fields) ++ "\x7d"

/-- The items of an array. -/
def shownItems : List Json → List String
  | [] => []
  | v :: vs => shownInside v :: shownItems vs

/-- The fields of an object. -/
def shownFields : List (String × Json) → List String
  | [] => []
  | (k, v) :: fs => (Text.quoted k.toList ++ ": " ++ shownInside v) :: shownFields fs

end

/-- A value in a message. -/
def shown : Json → String
  | .str s => s
  | v => shownInside v

end Config
end Entigram
