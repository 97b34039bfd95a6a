import Entigram.Yaml.Lexer

/-!
# The content of configuration files

A file holds one document or none: a scalar or a collection of such things (`Node`).  What is
missing, such as the value of a key that stands alone, is an empty scalar.

Collections between brackets and collections of lines have the same meaning.  A key in a list makes
up a mapping of its own, with that key alone.

The grammar is read by recursive descent.  Every call reads a token or goes to a smaller rule, so
the fuel is a multiple of the length of the text.
-/

set_option autoImplicit false

namespace Entigram
namespace Yaml

/-- A part of a file. -/
inductive Node
  | scalar (text : String) (isPlain : Bool)
  | list (items : List Node)
  | map (entries : List (Node × Node))
deriving Repr, Inhabited

namespace Node

/-- What stands for something that is missing. -/
def empty : Node := scalar "" true

end Node

/-- A step through the tokens of a text. -/
abbrev Reading := StateT Lexer (Except Fault)

namespace Reading

/-- The next token. -/
def peek : Reading Token := fun l => l.peek

/-- Passes the next token. -/
def skip : Reading Unit := modify Lexer.drop

/-- Passes the next token if it is this one. -/
def accept (t : Token) : Reading Bool := do
  if (← peek) = t then
    skip
    return true
  else return false

/-- The room inside of a collection. -/
def inside : Nat → Reading Nat
  | 0 => throw .depth
  | room + 1 => return room

/-- Where a node stands: what may make it up. -/
inductive Position
  /-- Between brackets. -/
  | flow
  | block
  /-- As a part of a mapping of lines, where a list needs no indentation. -/
  | entry
deriving Repr, DecidableEq

/-- A mapping with one entry, in a list. -/
def single (key value : Node) : Node := .map [(key, value)]

mutual

/-- A node. -/
def node : Nat → Nat → Position → Reading Node
  | 0, _, _ => throw .misplaced
  | n + 1, room, position => do
    match ← peek, position with
    | .dash, .entry => return .list (← dashes n (← inside room))
    | .scalar text isPlain, _ =>
      skip
      return .scalar text isPlain
    | .openList, _ =>
      skip
      return .list (← items n (← inside room) true)
    | .openMap, _ =>
      skip
      return .map (← entries n (← inside room) true)
    | .listStart, .block | .listStart, .entry =>
      skip
      return .list (← lines n (← inside room))
    | .mapStart, .block | .mapStart, .entry =>
      skip
      return .map (← pairs n (← inside room))
    | _, _ => throw .misplaced

/-- A node, or an empty one if one of these tokens comes next. -/
def nodeUnless : Nat → Nat → Position → List Token → Reading Node
  | 0, _, _, _ => throw .misplaced
  | n + 1, room, position, ends => do
    if ends.contains (← peek) then return .empty else node n room position

/-- The value behind a colon, or an empty one. -/
def valueUnless : Nat → Nat → Position → List Token → Reading Node
  | 0, _, _, _ => throw .misplaced
  | n + 1, room, position, ends => do
    if ← accept .value then nodeUnless n room position ends else return .empty

/-- The items of a list between brackets, up to its end. -/
def items : Nat → Nat → Bool → Reading (List Node)
  | 0, _, _ => throw .misplaced
  | n + 1, room, isFirst => do
    if ← accept .closeList then return []
    if !isFirst then
      if !(← accept .comma) then throw .misplaced
    if ← accept .closeList then return []
    let item ←
      if ← accept .key then do
        let room ← inside room
        let key ← nodeUnless n room .flow [.value, .comma, .closeList]
        single key <$> valueUnless n room .flow [.comma, .closeList]
      else node n room .flow
    return item :: (← items n room false)

/-- The entries of a mapping between brackets, up to its end. -/
def entries : Nat → Nat → Bool → Reading (List (Node × Node))
  | 0, _, _ => throw .misplaced
  | n + 1, room, isFirst => do
    if ← accept .closeMap then return []
    if !isFirst then
      if !(← accept .comma) then throw .misplaced
    if ← accept .closeMap then return []
    let entry ←
      if ← accept .key then do
        let key ← nodeUnless n room .flow [.value, .comma, .closeMap]
        (key, ·) <$> valueUnless n room .flow [.comma, .closeMap]
      else (·, .empty) <$> node n room .flow
    return entry :: (← entries n room false)

/-- The items of a list of lines, up to its end. -/
def lines : Nat → Nat → Reading (List Node)
  | 0, _ => throw .misplaced
  | n + 1, room => do
    if ← accept .dash then
      let item ← nodeUnless n room .block [.dash, .blockEnd]
      return item :: (← lines n room)
    else if ← accept .blockEnd then return []
    else throw .misplaced

/-- The items of a list of lines that is not indented. -/
def dashes : Nat → Nat → Reading (List Node)
  | 0, _ => throw .misplaced
  | n + 1, room => do
    if ← accept .dash then
      let item ← nodeUnless n room .block [.dash, .key, .value, .blockEnd]
      return item :: (← dashes n room)
    else return []

/-- The entries of a mapping of lines, up to its end. -/
def pairs : Nat → Nat → Reading (List (Node × Node))
  | 0, _ => throw .misplaced
  | n + 1, room => do
    if ← accept .key then
      let key ← nodeUnless n room .entry [.key, .value, .blockEnd]
      let value ← valueUnless n room .entry [.key, .value, .blockEnd]
      return (key, value) :: (← pairs n room)
    else if ← accept .blockEnd then return []
    else throw .misplaced

end

/-- Passes marks of ends of documents. -/
def skipEnds : Nat → Reading Unit
  | 0 => return
  | n + 1 => do
    if ← accept .documentEnd then skipEnds n

/-- The root of the first document, if there is a document.  `room` says how deep collections may
lie in one another. -/
def root (fuel room : Nat) : Reading (Option Node) := do
  match ← peek with
  | .finish => return none
  | .documentStart =>
    skip
    some <$> nodeUnless fuel room .block [.documentStart, .documentEnd, .finish]
  | _ => some <$> node fuel room .block

/-- The only document. -/
def document (fuel room : Nat) : Reading (Option Node) := do
  let found ← root fuel room
  skipEnds fuel
  match ← peek with
  | .finish => return found
  | .documentStart => throw .secondDocument
  | _ => throw .misplaced

end Reading

/-- The content of a text, if there is any. -/
def Node.ofText? (text : String) (depth : Nat) (half : Option Char) :
    Except Fault (Option Node) :=
  let cs := text.toList
  if cs.all isReadable then
    ((Reading.document (4 * cs.length + 16) depth).run (.start half cs)).map (·.1)
  else .error .character

end Yaml
end Entigram
