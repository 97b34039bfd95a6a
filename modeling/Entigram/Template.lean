import Entigram.Template.Part

/-!
# Texts with placeholders

A template is text in which `{name}` stands for a value.  A doubled brace stands for one brace.
Behind the name a placeholder can select parts of the value, one after the other (`{name.part}`,
`{name[item]}`), ask for a description (`{name!r}`) and say how the value is written (`{name:how}`),
where `how` may hold placeholders itself.

A template is taken apart from left to right (`pieces`), up to the first brace that is out of order.
Resolving goes from left to right too and stops at the first fault; so what is wrong with a
placeholder comes before a brace out of order behind it.
-/

set_option autoImplicit false

namespace Entigram
namespace Template

/-- A placeholder, taken apart. -/
structure Field where
  /-- The name, with the parts that it selects. -/
  name : List Char
  /-- The letter that asks for a description. -/
  description : Option Char := none
  /-- How the value is to be written. -/
  format : List Char := []
deriving Repr, DecidableEq

/-- A piece of a template: a character to keep, or a placeholder. -/
inductive Piece
  | keep (c : Char)
  | field (f : Field)
deriving Repr, DecidableEq

/-- How far a template is read.  What was read of the present part stands last character first. -/
inductive Reading
  | outside
  | name (read : List Char)
  /-- Between square brackets in a name, where braces and colons do not count. -/
  | item (read : List Char)
  | description (name : List Char)
  | described (name : List Char) (letter : Char)
  /-- How a value is written, with the number of braces that are open there. -/
  | format (name : List Char) (letter : Option Char) (depth : Nat) (read : List Char)

/-- The pieces of a template up to the first brace that is out of order, and whether there is none
such. -/
def piecesFrom : Reading → List Char → List Piece × Bool
  | .outside, [] => ([], true)
  | .outside, '{' :: '{' :: cs => (piecesFrom .outside cs).map (.keep '{' :: ·) id
  | .outside, '}' :: '}' :: cs => (piecesFrom .outside cs).map (.keep '}' :: ·) id
  | .outside, c :: cs =>
    if c = '{' then piecesFrom (.name []) cs
    else if c = '}' then ([], false)
    else (piecesFrom .outside cs).map (.keep c :: ·) id
  | .name read, c :: cs =>
    match c with
    | '{' => ([], false)
    | '[' => piecesFrom (.item (c :: read)) cs
    | '}' => (piecesFrom .outside cs).map (.field ⟨read.reverse, none, []⟩ :: ·) id
    | '!' => piecesFrom (.description read.reverse) cs
    | ':' => piecesFrom (.format read.reverse none 0 []) cs
    | _ => piecesFrom (.name (c :: read)) cs
  | .item read, c :: cs =>
    piecesFrom (if c = ']' then .name (c :: read) else .item (c :: read)) cs
  | .description name, c :: cs => piecesFrom (.described name c) cs
  | .described name letter, c :: cs =>
    match c with
    | '}' => (piecesFrom .outside cs).map (.field ⟨name, some letter, []⟩ :: ·) id
    | ':' => piecesFrom (.format name (some letter) 0 []) cs
    | _ => ([], false)
  | .format name letter depth read, c :: cs =>
    match c, depth with
    | '}', 0 => (piecesFrom .outside cs).map (.field ⟨name, letter, read.reverse⟩ :: ·) id
    | '}', outer + 1 => piecesFrom (.format name letter outer (c :: read)) cs
    | '{', _ => piecesFrom (.format name letter (depth + 1) (c :: read)) cs
    | _, _ => piecesFrom (.format name letter depth (c :: read)) cs
  | _, [] => ([], false)

/-- The pieces of a template up to the first brace that is out of order, and whether there is none
such. -/
def pieces (cs : List Char) : List Piece × Bool := piecesFrom .outside cs

/-- Are all braces of a template in order? -/
def isWellFormed (template : String) : Bool := (pieces template.toList).2

/-- Does the character end a name? -/
def endsName (c : Char) : Bool := c = '.' || c = '['

/-- A step from a value to something that belongs to it. -/
inductive Step
  | part (name : String)
  | item (place : Option Nat) (key : String)
deriving Repr, DecidableEq

namespace Step

/-- The step to the part of a name. -/
def toPart (name : List Char) : Except Fault Step :=
  if name.isEmpty then .error .malformed else .ok (.part (String.ofList name))

/-- The step to what is in square brackets: a place if there are only digits. -/
def toItem (key : List Char) : Except Fault Step :=
  if key.isEmpty then .error .malformed
  else match Layout.number? key with
    | none => .error .malformed
    | some (some n, []) => .ok (.item (some n) (String.ofList key))
    | some _ => .ok (.item none (String.ofList key))

/-- Where a step leads. -/
def target (v : Value) : Step → Except Fault Value
  | part name => v.part name
  | item place key => v.item place key

end Step

/-- How far the steps in a placeholder are read, last character first. -/
inductive Walk
  | between
  | part (read : List Char)
  | item (read : List Char)

/-- The steps behind the name of a value, up to the first that is out of order. -/
def stepsFrom : Walk → List Char → List (Except Fault Step)
  | .between, [] => []
  | .between, c :: cs =>
    if c = '.' then stepsFrom (.part []) cs
    else if c = '[' then stepsFrom (.item []) cs
    else [.error .malformed]
  | .part read, [] => [Step.toPart read.reverse]
  | .part read, c :: cs =>
    if c = '.' then Step.toPart read.reverse :: stepsFrom (.part []) cs
    else if c = '[' then Step.toPart read.reverse :: stepsFrom (.item []) cs
    else stepsFrom (.part (c :: read)) cs
  | .item _, [] => [.error .malformed]
  | .item read, c :: cs =>
    if c = ']' then Step.toItem read.reverse :: stepsFrom .between cs
    else stepsFrom (.item (c :: read)) cs

namespace Field

/-- The name of the value. -/
def valueName (f : Field) : List Char := f.name.takeWhile fun c => !endsName c

/-- The steps from the value to what is written. -/
def steps (f : Field) : List (Except Fault Step) :=
  stepsFrom .between (f.name.dropWhile fun c => !endsName c)

/-- The value of the name. -/
def named (f : Field) (values : String → Option Value) : Except Fault Value :=
  let name := String.ofList f.valueName
  match Layout.number? f.valueName with
  | none => .error .malformed
  | some (_, []) => .error .unnamed
  | some _ => match values name with
    | some v => .ok v
    | none => .error (.unknown name)

/-- The value of a field. -/
def value (f : Field) (address : Value → String) (values : String → Option Value) :
    Except Fault Value := do
  let v ← f.steps.foldlM (fun v step => step.bind fun s => s.target v) (← f.named values)
  v.describedAs address f.description

end Field

section resolve

variable (address : Value → String) (values : String → Option Value)

/-- Replaces the placeholders of a template by their values.  Formats are templates themselves, down
to `depth` levels. -/
def resolveChars : Nat → List Char → Except Fault (List Char)
  | 0, _ => .error .malformed
  | depth + 1, cs => do
    let parts ← (pieces cs).1.mapM fun
      | .keep c => .ok [c]
      | .field f => do
        let v ← f.value address values
        v.written address (← if f.format.contains '{' then resolveChars depth f.format
          else .ok f.format)
    if (pieces cs).2 then return parts.flatten else throw .malformed

/-- Replaces the placeholders of a template by their values. -/
def resolve (template : String) : Except Fault String :=
  (resolveChars address values 2 template.toList).map String.ofList

end resolve

end Template
end Entigram
