import Entigram.Json.Basic
import Entigram.Text.Search
import Entigram.Yaml.Node

/-!
# Values in configuration files

What the parts of a file mean.  A scalar in quotes is text.  A plain scalar is null, a truth value,
an integer or a real number if it is written like one, and text otherwise (`Plain.value`).

Low lines in numbers do not count.  An integer can be written in binary, octal, decimal or
hexadecimal, or in base 60 with colons.  A real number has a point, and its exponent, if there is
one, a sign: `1e5` is text.

The keys of a mapping are texts.  Of two entries with one key the later value counts.
-/

set_option autoImplicit false

namespace Entigram
namespace Yaml

/-! ## Plain scalars -/

namespace Plain

/-- The words for null and for truth values. -/
def constants : List (String × Json) :=
  [("", .null), ("~", .null), ("null", .null), ("Null", .null), ("NULL", .null)]
    ++ (["yes", "Yes", "YES", "true", "True", "TRUE", "on", "On", "ON"].map (·, .bool true))
    ++ (["no", "No", "NO", "false", "False", "FALSE", "off", "Off", "OFF"].map (·, .bool false))

/-- A number without its sign, and whether the sign is a minus. -/
def unsigned : List Char → Bool × List Char
  | '-' :: cs => (true, cs)
  | '+' :: cs => (false, cs)
  | cs => (false, cs)

/-- The most digits of an integer in decimal. -/
def longestInteger : Nat := 4300

/-- Is it a digit of a base or a low line? -/
def inDigits (base : Nat) (c : Char) : Bool := c = '_' || (hexValue? c).any (· < base)

/-- Is it made up of digits of a base and low lines? -/
def areDigits (base : Nat) (cs : List Char) : Bool := !cs.isEmpty && cs.all (inDigits base)

/-- Does a decimal number without sign begin with a digit, or with one other than zero? -/
def beginsDecimal (zero : Bool) (cs : List Char) : Bool :=
  cs.head?.any (fun c => c.isDigit && (zero || c ≠ '0')) && areDigits 10 cs

/-- The number that digits write. -/
def numberIn (base : Nat) (cs : List Char) : Except Fault Nat :=
  let digits := cs.filter (· ≠ '_')
  if digits.isEmpty || (base = 10 && longestInteger < digits.length) then .error .number
  else .ok (digits.foldl (fun n c => n * base + (hexValue? c).getD 0) 0)

/-- Is it a place behind a colon in base 60? -/
def isSixtieth : List Char → Bool
  | [a] => a.isDigit
  | [a, b] => '0' ≤ a && a ≤ '5' && b.isDigit
  | _ => false

/-- The number that places in base 60 write. -/
def sixtieths (first : List Char) (rest : List (List Char)) : Except Fault Nat := do
  rest.foldlM (fun n p => do return n * 60 + (← numberIn 10 p)) (← numberIn 10 first)

/-- The value of an integer without its sign, if it is one. -/
def natural? (cs : List Char) : Option (Except Fault Nat) :=
  match cs with
  | ['0'] => some (.ok 0)
  | '0' :: 'b' :: ds => if areDigits 2 ds then some (numberIn 2 ds) else none
  | '0' :: 'x' :: ds => if areDigits 16 ds then some (numberIn 16 ds) else none
  | '0' :: ds => if areDigits 8 ds then some (numberIn 8 cs) else none
  | _ =>
    if beginsDecimal false cs then some (numberIn 10 cs)
    else match Text.splitWhere (· = ':') cs with
      | first :: p :: rest =>
        if beginsDecimal false first && (p :: rest).all isSixtieth then
          some (sixtieths first (p :: rest))
        else none
      | _ => none

/-- The exponent of a real number, zero if there is none. -/
def exponent? : List Char → Option Int
  | [] => some 0
  | e :: sign :: ds =>
    if (e = 'e' || e = 'E') && (sign = '+' || sign = '-') && !ds.isEmpty && ds.all Char.isDigit then
      let n : Int := ds.foldl (fun n c => n * 10 + (c.toNat - '0'.toNat)) 0
      some (if sign = '-' then -n else n)
    else none
  | _ => none

/-- The decimal number with these digits before and behind its point. -/
def decimal (negative : Bool) (whole fraction : List Char) (exponent : Int) : Decimal :=
  let fraction := fraction.filter (· ≠ '_')
  let digits := whole.filter (· ≠ '_') ++ fraction
  { negative
    digits := digits.foldl (fun n c => n * 10 + (c.toNat - '0'.toNat)) 0
    exponent := exponent - fraction.length }

/-- A number in base 60 with digits behind its point, if it is one. -/
def sixtiethsWithPoint? (negative : Bool) (whole fraction : List Char) : Option Decimal :=
  match Text.splitWhere (· = ':') whole with
  | first :: p :: rest =>
    if beginsDecimal true first && (p :: rest).all isSixtieth then
      match sixtieths first (p :: rest) with
      | .ok n => some (decimal negative (toString n).toList fraction 0)
      | .error _ => none
    else none
  | _ => none

/-- A real number, if it is one. -/
def real? (cs : List Char) : Option Binary64 :=
  let (negative, ds) := unsigned cs
  if [".inf", ".Inf", ".INF"].contains (String.ofList ds) then some (.infinite negative)
  else
    let whole := ds.takeWhile (· ≠ '.')
    match ds.drop whole.length with
    | [] => none
    | _ :: behind =>
      let fraction := behind.takeWhile (inDigits 10)
      let exponent := exponent? (behind.drop fraction.length)
      if beginsDecimal true whole || (cs = ds && whole.isEmpty && beginsDecimal true fraction) then
        exponent.map fun e => .ofDecimal (decimal negative whole fraction e)
      else if fraction.length = behind.length then
        (sixtiethsWithPoint? negative whole fraction).map .ofDecimal
      else none

/-- The value of a plain scalar. -/
def value (text : String) : Except Fault Json :=
  match constants.lookup text with
  | some v => .ok v
  | none =>
    let cs := text.toList
    match real? cs, natural? (unsigned cs).2 with
    | some x, _ => .ok (.real x)
    | none, some n => n.map fun n => .int (if (unsigned cs).1 then -(n : Int) else n)
    | none, none => .ok (.str text)

end Plain

/-! ## Nodes -/

namespace Node

/-- The value of a scalar. -/
def scalarValue (text : String) (isPlain : Bool) : Except Fault Json :=
  if isPlain then Plain.value text else .ok (.str text)

/-- The text of a key. -/
def keyText : Node → Except Fault String
  | scalar text isPlain => (scalarValue text isPlain).map fun _ => text
  | _ => .error .collectionAsKey

mutual

/-- The value of a node. -/
def value : Node → Except Fault Json
  | scalar text isPlain => scalarValue text isPlain
  | list items => do return .arr (← values items)
  | map entries => do return .obj (← fields [] entries)

/-- The values of the items of a list. -/
def values : List Node → Except Fault (List Json)
  | [] => .ok []
  | n :: ns => do
    let v ← n.value
    return v :: (← values ns)

/-- The fields that entries of a mapping make up, behind those before them. -/
def fields (before : Json.Fields) : List (Node × Node) → Except Fault Json.Fields
  | [] => .ok before
  | (k, v) :: rest => do
    let key ← k.keyText
    let value ← v.value
    fields (Json.put key value before) rest

end

end Node

end Yaml

/-- The value that the text of a configuration file holds; null if there is none.  `depth` says how
deep collections may lie in one another, and `half` what stands for an escaped half of a character,
if anything does. -/
def Json.ofYaml (text : String) (depth : Nat) (half : Option Char := none) :
    Except Yaml.Fault Json := do
  match ← Yaml.Node.ofText? text depth half with
  | some node => node.value
  | none => return .null

end Entigram
