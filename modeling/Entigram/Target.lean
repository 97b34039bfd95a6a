import Entigram.CSharp

/-!
# Output languages

The languages that sources can be written in, and how a language is found by its name.  The name's
case does not count.
-/

set_option autoImplicit false

namespace Entigram

/-- The languages that sources can be written in. -/
inductive Target
  | csharp
deriving Repr, DecidableEq, Inhabited

namespace Target

/-- The name by which settings and commands choose the language. -/
def name : Target → String
  | csharp => "csharp"

/-- All languages, in the order of their names. -/
def all : List Target := [csharp]

/-- The language of a name, in any case. -/
def ofName? (s : String) : Option Target := all.find? fun t => t.name = Text.lower s

/-- The names of all languages, as a listing shows them. -/
def listing : String :=
  "[" ++ ", ".intercalate (all.map fun t => s!"'{t.name}'") ++ "]"

/-- What is said about a name that no language has. -/
def unsupported (s : String) : String := s!"Unsupported target '{s}'. Available: {listing}"

theorem ofName?_name (t : Target) : ofName? t.name = some t := by
  cases t; decide +kernel

end Target

end Entigram
