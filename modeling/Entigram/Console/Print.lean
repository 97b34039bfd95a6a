import Entigram.Libraries

/-!
# What the console shows

The console understands markup in its texts: tags that open and close styles.  What is well-formed
it shows, and of several texts it shows those before the first that is not (`printAll`).  Plain text
it always shows.
-/

set_option autoImplicit false

namespace Entigram
namespace Console

/-- A text in a style. -/
def styled (style s : String) : String := s!"[{style}]{s}[/{style}]"

/-- A text that the console printed. -/
inductive Print
  /-- Read as markup. -/
  | markup (text : String)
  /-- Shown as it is. -/
  | plain (text : String)
deriving Repr, DecidableEq

/-- The text as it was handed over. -/
def Print.text : Print → String
  | markup s => s
  | plain s => s

/-- Hands markup over text by text: what was printed, and the complaint about the first text that is
not well-formed. -/
def printAll (check : String → Except Complaint Unit) :
    List String → List Print × Except Complaint Unit
  | [] => ([], .ok ())
  | s :: rest =>
    match check s with
    | .error why => ([], .error why)
    | .ok () =>
      let (prints, result) := printAll check rest
      (.markup s :: prints, result)

end Console
end Entigram
