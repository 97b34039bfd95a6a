/-!
# Control codes

A screen takes colours and movements from codes in the text: an escape character, a square bracket,
parameters, marks and a last character.  Output that does not go to a screen leaves them out
(`withoutControlCodes`).
-/

set_option autoImplicit false

namespace Entigram
namespace Console

/-- The character that codes begin with. -/
def escape : Char := Char.ofNat 0x1B

/-- Can the character stand first behind the bracket of a code? -/
def isCodeParameter (c : Char) : Bool := '0' ≤ c && c ≤ '?'

/-- Can the character stand behind the parameters of a code? -/
def isCodeMark (c : Char) : Bool := ' ' ≤ c && c ≤ '/'

/-- Can the character end a code? -/
def endsCode (c : Char) : Bool := '@' ≤ c && c ≤ '~'

/-- The number of characters of the code that a text begins with, if there is one. -/
def codeLength? : List Char → Option Nat
  | c :: '[' :: cs =>
    let parameters := cs.takeWhile isCodeParameter
    let marks := (cs.drop parameters.length).takeWhile isCodeMark
    let length := parameters.length + marks.length
    if c = escape && (cs.drop length).head?.any endsCode then some (length + 3) else none
  | _ => none

/-- A text without its first characters and without the codes behind them. -/
def dropCodes : Nat → List Char → List Char
  | _, [] => []
  | skipped + 1, _ :: cs => dropCodes skipped cs
  | 0, c :: cs =>
    match codeLength? (c :: cs) with
    | some n => dropCodes (n - 1) cs
    | none => c :: dropCodes 0 cs

/-- A text without control codes. -/
def withoutControlCodes (s : String) : String := String.ofList (dropCodes 0 s.toList)

end Console
end Entigram
