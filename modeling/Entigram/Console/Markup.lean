import Entigram.Console.Literal
import Entigram.Console.Style
import Entigram.Text.Blank

/-!
# Console markup

The console understands tags in its texts: `[green]` opens a style, `[/green]` closes it and `[/]`
closes the style opened last.  A bracket begins a tag only if a small letter or one of `#`, `/` and
`@` follows and a closing bracket comes before the next opening one; anything else is plain text,
and so is a tag behind an odd number of backslashes.

The name of a tag ends at an equals sign; its parameters are behind that.  Names are compared in
their normal form, so `[/bold]` closes `[b]`.  A name with `@` in front means an action, and its
parameters say what the action is called with.

The console refuses a text (`checkMarkup`) if a closing tag closes nothing, if an action that is
closed is called with something other than literals, or if a name means a colour that is made up of
something other than numbers.  Tags that stay open are closed by the end of the text.  Without its
tags the text is what a reader sees (`plainText`).
-/

set_option autoImplicit false

namespace Entigram
namespace Console

open Text

/-- The characters that a tag can begin with. -/
def startsTag (c : Char) : Bool := c.isLower || c = '#' || c = '/' || c = '@'

/-- A part of a text. -/
inductive Piece
  | plain (cs : List Char)
  /-- A tag, without its brackets. -/
  | tag (body : List Char)
deriving Repr, DecidableEq

/-- A number of backslashes. -/
def backslashes (n : Nat) : List Char := List.replicate n '\\'

/-- A bracket that begins no tag, behind backslashes: the last of them is dropped. -/
def plainBracket (slashes : Nat) (cs : List Char) : Piece :=
  .plain (backslashes (slashes - 1) ++ '[' :: cs)

/-- A tag behind backslashes.  Two of them stand for one, and a single one that is left makes the
tag plain text. -/
def tagBehind (slashes : Nat) (body : List Char) : List Piece :=
  [.plain (backslashes (slashes / 2)),
    if slashes % 2 = 0 then .tag body else .plain ('[' :: body ++ [']'])]

/-- The pieces of a text.  `slashes` counts the backslashes right before the place that is read, or
before the bracket while a tag is read; then the second argument holds what was read since the
bracket, last character first. -/
def piecesFrom (slashes : Nat) : Option (List Char) → List Char → List Piece
  | none, [] => [.plain (backslashes slashes)]
  | some body, [] => [plainBracket slashes body.reverse]
  | none, c :: cs =>
    if c = '\\' then piecesFrom (slashes + 1) none cs
    else if c = '[' then piecesFrom slashes (some []) cs
    else .plain (backslashes slashes ++ [c]) :: piecesFrom 0 none cs
  | some body, c :: cs =>
    if c = '[' then
      plainBracket slashes (body.dropWhile (· = '\\')).reverse
        :: piecesFrom (body.takeWhile (· = '\\')).length (some []) cs
    else if body.isEmpty && !startsTag c then
      if c = '\\' then plainBracket slashes [] :: piecesFrom 1 none cs
      else plainBracket slashes [c] :: piecesFrom 0 none cs
    else if c = ']' then tagBehind slashes body.reverse ++ piecesFrom 0 none cs
    else piecesFrom slashes (some (c :: body)) cs

/-- The pieces of a text. -/
def pieces (s : String) : List Piece := piecesFrom 0 none s.toList

/-- The text without its tags. -/
def plainText (s : String) : String :=
  String.ofList ((pieces s).flatMap fun
    | .plain cs => cs
    | .tag _ => [])

/-! ## Tags -/

/-- A tag: its name, and what stands behind an equals sign, if there is one. -/
structure Tag where
  name : List Char
  parameters : Option (List Char) := none
deriving Repr, DecidableEq

/-- Why the console refuses markup. -/
inductive MarkupFault
  /-- A closing tag closes nothing. -/
  | unmatched
  /-- An action is called with something other than literals. -/
  | badAction
  /-- A part of a colour in a name should be a number and is none. -/
  | notANumber
deriving Repr, DecidableEq

/-- The normal form of a name. -/
def normalName (cs : List Char) : Except MarkupFault (List Char) :=
  (normalize cs).mapError fun _ => .notANumber

namespace Tag

/-- Takes a tag apart. -/
def ofBody (body : List Char) : Tag where
  name := body.takeWhile (· ≠ '=')
  parameters :=
    match body.dropWhile (· ≠ '=') with
    | _ :: cs => some cs
    | [] => none

/-- The name that a closing tag closes; the empty name means the last open tag. -/
def closes? (t : Tag) : Option (List Char) :=
  match t.name with
  | '/' :: name => some (trim name)
  | _ => none

/-! ### Actions -/

/-- Does the tag mean an action? -/
def isAction (t : Tag) : Bool := t.name.head? = some '@'

/-- Can the character stand in the name of a handler? -/
def inHandlerName (c : Char) : Bool := isWordChar c || c = '.'

/-- What an action is called with: what stands in round brackets behind the name of a handler, on
one line, and nothing if there is only the name.  Parameters of another form are themselves what
the action is called with. -/
def arguments (parameters : List Char) : List Char :=
  let text := trim parameters
  match text.dropWhile inHandlerName with
  | [] => ['(', ')']
  | c :: rest =>
    if c = '(' && rest.getLast? = some ')' && !rest.contains '\n' then c :: rest else text

/-- Fails if the tag means an action that is called with something other than literals. -/
def checkAction (t : Tag) : Except MarkupFault Unit :=
  match t.parameters with
  | none => .ok ()
  | some ps =>
    if !t.isAction || ps.isEmpty || isLiteral (arguments ps) then .ok () else .error .badAction

end Tag

/-- The tags of a text. -/
def tags (s : String) : List Tag :=
  (pieces s).filterMap fun
    | .plain _ => none
    | .tag body => some (.ofBody body)

/-- Takes the first tag of a name out of a list. -/
def takeNamed? (name : List Char) : List Tag → Option (Tag × List Tag)
  | [] => none
  | t :: ts =>
    if t.name = name then some (t, ts)
    else (takeNamed? name ts).map fun (found, rest) => (found, t :: rest)

/-- Closes the last open tag of a name, or the last one at all if the name is empty.  `stack` holds
the open tags, the last one first. -/
def close (name : List Char) (stack : List Tag) : Except MarkupFault (Tag × List Tag) := do
  if name.isEmpty then
    match stack with
    | [] => throw .unmatched
    | t :: ts => return (t, ts)
  else
    match takeNamed? (← normalName name) stack with
    | some found => return found
    | none => throw .unmatched

/-- Fails unless every closing tag closes an open one, and every action that is closed is called
with literals.  `stack` holds the open tags, the last one first. -/
def checkTags (stack : List Tag) : List Tag → Except MarkupFault Unit
  | [] => .ok ()
  | t :: rest =>
    match t.closes? with
    | none => do checkTags ({ t with name := ← normalName t.name } :: stack) rest
    | some name => do
      let (closed, stack) ← close name stack
      closed.checkAction
      checkTags stack rest

/-- Fails unless the console can show the text as markup. -/
def checkMarkup (s : String) : Except MarkupFault Unit := checkTags [] (tags s)

end Console
end Entigram
