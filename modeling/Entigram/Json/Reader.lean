import Entigram.Json.Basic

/-!
# Reading JSON

A reader for the text of one JSON value.  Each step takes what it reads off the front of the text
and hands the rest on; `none` means that the text is not JSON.  Of two fields with one key the later
value counts.

A number is an integer, or binary if it is written with a point or an exponent.

The depth of a value is bounded by the length of its text, and that length is the fuel the mutual
recursion runs on: every call reads at least one character before it calls another.
-/

set_option autoImplicit false

namespace Entigram
namespace Json
namespace Reader

/-- The white space of JSON. -/
def isSpace (c : Char) : Bool := c = ' ' || c = '\t' || c = '\n' || c = '\r'

/-- The text after white space. -/
def skip (cs : List Char) : List Char := cs.dropWhile isSpace

/-- The value of a hexadecimal digit. -/
def hexValue? (c : Char) : Option Nat :=
  if '0' ≤ c && c ≤ '9' then some (c.toNat - '0'.toNat)
  else if 'a' ≤ c && c ≤ 'f' then some (c.toNat - 'a'.toNat + 10)
  else if 'A' ≤ c && c ≤ 'F' then some (c.toNat - 'A'.toNat + 10)
  else none

/-- Four hexadecimal digits. -/
def hex4? : List Char → Option (Nat × List Char)
  | a :: b :: c :: d :: rest => do
    let a ← hexValue? a
    let b ← hexValue? b
    let c ← hexValue? c
    let d ← hexValue? d
    return (((a * 16 + b) * 16 + c) * 16 + d, rest)
  | _ => none

/-- The character that a letter after a backslash stands for. -/
def escaped? : Char → Option Char
  | '"' => some '"'
  | '\\' => some '\\'
  | '/' => some '/'
  | 'b' => some (Char.ofNat 0x08)
  | 'f' => some (Char.ofNat 0x0C)
  | 'n' => some '\n'
  | 'r' => some '\r'
  | 't' => some '\t'
  | _ => none

/-- The character after `\u`: two escapes in a row may write one character. -/
def unicode? (cs : List Char) : Option (Char × List Char) := do
  let (high, rest) ← hex4? cs
  if 0xD800 ≤ high ∧ high < 0xDC00 then
    match rest with
    | '\\' :: 'u' :: rest' =>
      let (low, rest'') ← hex4? rest'
      if 0xDC00 ≤ low ∧ low < 0xE000 then
        return (Char.ofNat (0x10000 + (high - 0xD800) * 0x400 + (low - 0xDC00)), rest'')
      else none
    | _ => none
  else if 0xDC00 ≤ high ∧ high < 0xE000 then none
  else return (Char.ofNat high, rest)

/-- The characters up to the closing quote. -/
def string? : Nat → List Char → Option (List Char × List Char)
  | 0, _ => none
  | _, [] => none
  | _ + 1, '"' :: cs => some ([], cs)
  | n + 1, '\\' :: 'u' :: cs => do
    let (c, rest) ← unicode? cs
    let (text, rest') ← string? n rest
    return (c :: text, rest')
  | n + 1, '\\' :: e :: cs => do
    let c ← escaped? e
    let (text, rest) ← string? n cs
    return (c :: text, rest)
  | n + 1, c :: cs => do
    if c.toNat < 0x20 || c = '\\' then none
    let (text, rest) ← string? n cs
    return (c :: text, rest)

/-- The number that decimal digits write. -/
def digitsValue (ds : List Char) : Nat := ds.foldl (fun n d => n * 10 + (d.toNat - '0'.toNat)) 0

/-- A run of decimal digits. -/
def digits (cs : List Char) : List Char × List Char := cs.span Char.isDigit

/-- A number, taken apart. -/
structure Numeral where
  negative : Bool
  whole : List Char
  /-- The digits behind the point; none if there is no point. -/
  fraction : List Char
  exponent : Option Int
deriving Repr, DecidableEq

namespace Numeral

/-- The number as a decimal number. -/
def decimal (n : Numeral) : Decimal where
  negative := n.negative
  digits := digitsValue (n.whole ++ n.fraction)
  exponent := n.exponent.getD 0 - n.fraction.length

/-- The value of a number: an integer if there is neither a point nor an exponent. -/
def value (n : Numeral) : Json :=
  if n.fraction.isEmpty && n.exponent.isNone then
    .int (if n.negative then -(digitsValue n.whole : Int) else digitsValue n.whole)
  else .real (Binary64.ofDecimal n.decimal)

end Numeral

/-- The exponent of a number, if there is one. -/
def exponent? (cs : List Char) : Option (Option Int × List Char) :=
  match cs with
  | e :: rest =>
    if e = 'e' || e = 'E' then
      let (sign, rest) : Int × List Char := match rest with
        | '-' :: r => (-1, r)
        | '+' :: r => (1, r)
        | r => (1, r)
      let (ds, rest) := digits rest
      if ds.isEmpty then none else some (some (sign * digitsValue ds), rest)
    else some (none, cs)
  | [] => some (none, [])

/-- The digits behind a point, if there is one. -/
def fraction? : List Char → Option (List Char × List Char)
  | '.' :: cs =>
    let (ds, rest) := digits cs
    if ds.isEmpty then none else some (ds, rest)
  | cs => some ([], cs)

/-- A number without its sign. -/
def numeral? (negative : Bool) (cs : List Char) : Option (Numeral × List Char) := do
  let (whole, rest) := digits cs
  if whole.isEmpty || (1 < whole.length && whole.head? = some '0') then none
  let (fraction, rest) ← fraction? rest
  let (exponent, rest) ← exponent? rest
  return ({ negative, whole, fraction, exponent }, rest)

/-- Takes a word off the front. -/
def word? (word : List Char) (value : Json) (cs : List Char) : Option (Json × List Char) :=
  if word.isPrefixOf cs then some (value, cs.drop word.length) else none

mutual

/-- A value, without white space before it. -/
def value? : Nat → List Char → Option (Json × List Char)
  | 0, _ => none
  | _, [] => none
  | n + 1, '"' :: cs => do
    let (text, rest) ← string? n cs
    return (.str (String.ofList text), rest)
  | n + 1, '[' :: cs =>
    match skip cs with
    | ']' :: rest => some (.arr [], rest)
    | rest => do
      let (items, rest') ← items? n rest
      return (.arr items, rest')
  | n + 1, '\x7b' :: cs =>
    match skip cs with
    | '\x7d' :: rest => some (.obj [], rest)
    | rest => do
      let (fields, rest') ← fields? n [] rest
      return (.obj fields, rest')
  | _ + 1, '-' :: cs => do
    let (n, rest) ← numeral? true cs
    return (n.value, rest)
  | _ + 1, c :: cs =>
    if c.isDigit then do
      let (n, rest) ← numeral? false (c :: cs)
      return (n.value, rest)
    else (word? "true".toList (.bool true) (c :: cs)).or <|
      (word? "false".toList (.bool false) (c :: cs)).or <|
        word? "null".toList .null (c :: cs)

/-- The items of an array, up to its end. -/
def items? : Nat → List Char → Option (List Json × List Char)
  | 0, _ => none
  | n + 1, cs => do
    let (v, rest) ← value? n cs
    match skip rest with
    | ',' :: rest' =>
      let (vs, rest'') ← items? n (skip rest')
      return (v :: vs, rest'')
    | ']' :: rest' => return ([v], rest')
    | _ => none

/-- The fields of an object after those read already, up to its end. -/
def fields? : Nat → Fields → List Char → Option (Fields × List Char)
  | 0, _, _ => none
  | n + 1, before, '"' :: cs => do
    let (key, rest) ← string? n cs
    match skip rest with
    | ':' :: rest' =>
      let (v, rest'') ← value? n (skip rest')
      let fields := put (String.ofList key) v before
      match skip rest'' with
      | ',' :: r => fields? n fields (skip r)
      | '\x7d' :: r => return (fields, r)
      | _ => none
    | _ => none
  | _ + 1, _, _ => none

end

end Reader

/-- The value that a text writes, if the text is JSON. -/
def ofText? (text : String) : Option Json :=
  let cs := text.toList
  match Reader.value? (cs.length + 1) (Reader.skip cs) with
  | some (v, rest) => if (Reader.skip rest).isEmpty then some v else none
  | none => none

end Json
end Entigram
