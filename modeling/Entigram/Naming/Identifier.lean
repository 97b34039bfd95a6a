import Entigram.Text.Blank
import Entigram.Text.Case

/-!
# Identifiers from diagram names

Diagram names are written in capitals with separators (`ORDER_ITEM`), generated identifiers in
Pascal case (`OrderItem`); collections get an English plural.

* `pascalCase` joins the words between the separators, each with a capital first letter and the
  rest in lower case.
* `pluralize` looks at the end of the name in lower case: `ings` stays as it is, a consonant before
  `y` gives `ies`, an `s` gets `es` and anything else an `s`.
-/

set_option autoImplicit false

namespace Entigram
namespace Naming

open Text

/-! ## Pascal case -/

/-- The characters that separate the words of a diagram name. -/
def isSeparator (c : Char) : Bool := c = '_' || c = '-' || c = ' '

/-- One word of an identifier: a capital, then lower case. -/
def capitalize : List Char → List Char
  | [] => []
  | c :: cs => upperChar c ++ lowerChars cs

/-- The identifier for a diagram name. -/
def pascalChars (name : List Char) : List Char :=
  (splitWhere isSeparator name).flatMap fun piece => capitalize (trim piece)

/-- The identifier for a diagram name: `USER_PROFILE` gives `UserProfile`. -/
def pascalCase (name : String) : String := String.ofList (pascalChars name.toList)

/-! ## Plurals -/

/-- The vowels, before which and after which a `y` stays. -/
def isVowel (c : Char) : Bool := "aeiou".toList.contains c

/-- The plural of a name. -/
def pluralChars (name : List Char) : List Char :=
  let ending := (lowerChars name).reverse
  if "sgni".toList.isPrefixOf ending then name
  else match ending with
    | 'y' :: c :: _ =>
      if 1 < name.length && !isVowel c then name.dropLast ++ ['i', 'e', 's'] else name ++ ['s']
    | 's' :: _ => name ++ ['e', 's']
    | _ => name ++ ['s']

/-- The plural of a name. -/
def pluralize (name : String) : String := String.ofList (pluralChars name.toList)

end Naming
end Entigram
