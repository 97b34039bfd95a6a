import Entigram.Json.Basic
import Entigram.Number.Shortest

/-!
# The text of JSON values

A value is written on one line, or over several with an indentation of one's choosing
(`Json.Layout`); an empty array or object stays on one line in either case.
-/

set_option autoImplicit false

namespace Entigram
namespace Json

/-! ## Strings and numbers -/

/-- A hexadecimal digit. -/
def hexDigit (n : Nat) : Char := Nat.digitChar (n % 16)

/-- How a character is written inside a string: quotes, backslashes and control characters are
escaped, everything else stands for itself. -/
def escapeChar (c : Char) : List Char :=
  if c = '"' then ['\\', '"']
  else if c = '\\' then ['\\', '\\']
  else if c = '\n' then ['\\', 'n']
  else if c = '\r' then ['\\', 'r']
  else if c = '\t' then ['\\', 't']
  else if c.toNat = 0x08 then ['\\', 'b']
  else if c.toNat = 0x0C then ['\\', 'f']
  else if c.toNat < 0x20 then ['\\', 'u', '0', '0', hexDigit (c.toNat / 16), hexDigit c.toNat]
  else [c]

/-- A string in quotes. -/
def quote (s : String) : String :=
  String.ofList ('"' :: s.toList.flatMap escapeChar ++ ['"'])

/-- A binary number in its shortest form. -/
def realText (x : Binary64) : String := x.text "Infinity"

/-! ## Layout -/

/-- How the text of a value is laid out. -/
inductive Layout
  /-- On one line. -/
  | inline
  /-- Every item on a line of its own, indented by `unit` for every level. -/
  | lines (unit : String)
deriving Repr, DecidableEq

namespace Layout

/-- What stands between two items, or between a bracket and an item, at a depth. -/
def lineBreak (l : Layout) (depth : Nat) : String :=
  match l with
  | inline => ""
  | lines unit => "\n" ++ String.join (List.replicate depth unit)

/-- What stands between two items at a depth. -/
def separator (l : Layout) (depth : Nat) : String :=
  match l with
  | inline => ", "
  | lines _ => "," ++ l.lineBreak depth

/-- Items between brackets, at a depth. -/
def enclose (l : Layout) (depth : Nat) (opening closing : String) (items : List String) : String :=
  if items.isEmpty then opening ++ closing
  else opening ++ l.lineBreak (depth + 1) ++ (l.separator (depth + 1)).intercalate items
    ++ l.lineBreak depth ++ closing

end Layout

mutual

/-- The text of a value at a depth. -/
def textAt (l : Layout) (depth : Nat) : Json → String
  | null => "null"
  | bool b => if b then "true" else "false"
  | int n => toString n
  | real x => realText x
  | str s => quote s
  | arr items => l.enclose depth "[" "]" (itemTexts l (depth + 1) items)
  | obj fields => l.enclose depth "\x7b" "\x7d" (fieldTexts l (depth + 1) fields)

/-- The texts of the items of an array. -/
def itemTexts (l : Layout) (depth : Nat) : List Json → List String
  | [] => []
  | v :: vs => textAt l depth v :: itemTexts l depth vs

/-- The texts of the fields of an object. -/
def fieldTexts (l : Layout) (depth : Nat) : List (String × Json) → List String
  | [] => []
  | (k, v) :: fs => (quote k ++ ": " ++ textAt l depth v) :: fieldTexts l depth fs

end

/-- The text of a value. -/
def text (l : Layout) (v : Json) : String := textAt l 0 v

end Json

end Entigram
