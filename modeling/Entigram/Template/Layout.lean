import Entigram.Text.WordChar

/-!
# Layouts

How a value is written can be asked for in a few characters (`Layout.ofChars?`): a character to fill
up with and a side, a sign, a width, marks between groups of digits, a number of places and a kind,
all of them optional: `*>10`, `+05,d`, `.3`.

Texts and integers understand different parts of this (`Layout.text?`, `Layout.integer?`); what a
value does not understand is refused.
-/

set_option autoImplicit false

namespace Entigram
namespace Template

/-- Where a value stands in a field that is too wide for it. -/
inductive Side
  | left
  | right
  | middle
  /-- At the right, with its sign at the left. -/
  | apart
deriving Repr, DecidableEq

/-- The side that a character asks for. -/
def Side.ofChar? : Char → Option Side
  | '<' => some left
  | '>' => some right
  | '^' => some middle
  | '=' => some apart
  | _ => none

/-- How a value is to be written. -/
structure Layout where
  fill : Option Char := none
  side : Option Side := none
  sign : Option Char := none
  /-- Is a zero not to have a sign? -/
  plainZero : Bool := false
  /-- Is the base of a number to be shown? -/
  showsBase : Bool := false
  /-- Does a zero come before the width? -/
  zeros : Bool := false
  width : Nat := 0
  /-- The mark between groups of digits. -/
  mark : Option Char := none
  places : Option Nat := none
  kind : Option Char := none
deriving Repr, DecidableEq

namespace Layout

/-! ## Reading layouts -/

/-- The greatest number in a layout. -/
def greatest : Nat := 9223372036854775807

/-- A number, and what follows it; refused if it is too great. -/
def number? (cs : List Char) : Option (Option Nat × List Char) :=
  let digits := cs.takeWhile Text.isDecimalDigit
  let n := digits.foldl (fun n c => n * 10 + Text.digitValue c) 0
  if greatest < n then none
  else some (if digits.isEmpty then none else some n, cs.drop digits.length)

/-- Takes a character off the front, if it comes first. -/
def taken (c : Char) : List Char → Bool × List Char
  | [] => (false, [])
  | d :: cs => if d = c then (true, cs) else (false, d :: cs)

/-- The character to fill up with and the side, and what follows them. -/
def sideOf (cs : List Char) : Option Char × Option Side × List Char :=
  match cs with
  | fill :: c :: rest =>
    match Side.ofChar? c, Side.ofChar? fill with
    | some side, _ => (some fill, some side, rest)
    | none, some side => (none, some side, c :: rest)
    | none, none => (none, none, cs)
  | [c] =>
    match Side.ofChar? c with
    | some side => (none, some side, [])
    | none => (none, none, cs)
  | [] => (none, none, [])

/-- A sign, and what follows it. -/
def signOf : List Char → Option Char × List Char
  | [] => (none, [])
  | c :: cs => if c = '+' || c = '-' || c = ' ' then (some c, cs) else (none, c :: cs)

/-- A mark between groups of digits, and what follows it.  There is one mark at most. -/
def markOf : List Char → Option (Option Char × List Char)
  | ',' :: '_' :: _ => none
  | '_' :: ',' :: _ => none
  | ',' :: cs => some (some ',', cs)
  | '_' :: cs => some (some '_', cs)
  | cs => some (none, cs)

/-- A number of places behind a point, and what follows it. -/
def placesOf : List Char → Option (Option Nat × List Char)
  | '.' :: cs => (number? cs).bind fun (n, rest) => n.map fun n => (some n, rest)
  | cs => some (none, cs)

/-- Can numbers of a kind have this mark? -/
def takesMark (mark : Char) : Option Char → Bool
  | none => true
  | some kind =>
    ['d', 'e', 'f', 'g', 'E', 'G', '%', 'F'].contains kind
      || (mark = '_' && ['b', 'o', 'x', 'X'].contains kind)

/-- Reads a layout. -/
def ofChars? (cs : List Char) : Option Layout := do
  let (fill, side, cs) := sideOf cs
  let (sign, cs) := signOf cs
  let (plainZero, cs) := taken 'z' cs
  let (showsBase, cs) := taken '#' cs
  let (zeros, cs) := if fill.isNone then taken '0' cs else (false, cs)
  let (width, cs) ← number? cs
  let (mark, cs) ← markOf cs
  let (places, cs) ← placesOf cs
  if 1 < cs.length then none
  let kind := cs.head?
  if mark.all fun c => takesMark c kind then
    let width := width.getD 0
    return { fill, side, sign, plainZero, showsBase, zeros, width, mark, places, kind }
  else none

/-! ## Writing -/

/-- No field is wider than this: more than the longest path has characters. -/
def widest : Nat := 100000

/-- No field can have more characters than this. -/
def room : Nat := 100000000000

/-- The greatest number of places behind a point. -/
def mostPlaces : Nat := 2147483647

/-- The number of characters to fill a field up with. -/
def missing (l : Layout) (length : Nat) : Nat := min l.width widest - length

/-- So many times the character to fill up with. -/
def filling (l : Layout) (count : Nat) : List Char :=
  List.replicate count (l.fill.getD (if l.zeros then '0' else ' '))

/-- A field with the parts of a value, of which the first is its sign. -/
def field (l : Layout) (side : Side) (sign body : List Char) : List Char :=
  let count := l.missing (sign.length + body.length)
  match side with
  | .left => sign ++ body ++ l.filling count
  | .right => l.filling count ++ sign ++ body
  | .middle => l.filling (count / 2) ++ sign ++ body ++ l.filling (count - count / 2)
  | .apart => sign ++ l.filling count ++ body

/-- A text in a layout.  Places say how many characters of it are kept. -/
def text? (l : Layout) (cs : List Char) : Option (List Char) :=
  if l.sign.isSome || l.plainZero || l.showsBase || l.mark.isSome || l.side = some .apart
      || l.kind.any (· ≠ 's') then none
  else
    let kept := match l.places with
      | some n => cs.take (min n cs.length)
      | none => cs
    some (l.field (l.side.getD .left) [] kept)

/-- Digits in groups, least first, filled up with zeros until they take `width` characters. -/
def groupsFrom (size : Nat) (mark : Char) : Nat → Nat → List Char → List Char
  | 0, _, digits => digits
  | fuel + 1, width, digits =>
    let length := min size (max (max digits.length width) 1)
    let group := digits.take length ++ List.replicate (length - digits.length) '0'
    if digits.length ≤ length && width ≤ length then group
    else group ++ mark :: groupsFrom size mark fuel (width - length - 1) (digits.drop length)

/-- Digits in groups, filled up with zeros until they take `width` characters. -/
def grouped (size : Nat) (mark : Char) (width : Nat) (digits : List Char) : List Char :=
  (groupsFrom size mark (digits.length + width) width digits.reverse).reverse

/-- The sign that is shown for a number. -/
def signFor (l : Layout) (negative : Bool) : List Char :=
  if negative then ['-']
  else match l.sign with
    | some '+' => ['+']
    | some ' ' => [' ']
    | _ => []

/-- The digits of a number in a layout: what comes before them, and they themselves behind it. -/
def numeral (l : Layout) (size : Nat) (before digits behind : List Char) : List Char :=
  let side := l.side.getD (if l.zeros then .apart else .right)
  let room :=
    if side = .apart && l.filling 1 = ['0'] then
      min l.width widest - before.length - behind.length
    else 0
  let digits := match l.mark with
    | some mark => grouped size mark room digits
    | none => digits
  l.field side before (digits ++ behind)

/-- The base of a kind of integers, and what shows it. -/
def base? : Option Char → Option (Nat × List Char)
  | none => some (10, [])
  | some 'd' => some (10, [])
  | some 'n' => some (10, [])
  | some 'b' => some (2, ['0', 'b'])
  | some 'o' => some (8, ['0', 'o'])
  | some 'x' => some (16, ['0', 'x'])
  | some 'X' => some (16, ['0', 'X'])
  | _ => none

/-- An integer written in a base. -/
def inBase? (l : Layout) (n : Int) : Option (List Char) :=
  match base? l.kind with
  | none => none
  | some (base, shown) =>
    let digits := Nat.toDigits base n.natAbs
    let digits := if l.kind = some 'X' then digits.map Char.toUpper else digits
    let before := l.signFor (n < 0) ++ if l.showsBase then shown else []
    some (l.numeral (if base = 10 then 3 else 4) before digits [])

/-- A natural number in decimal with so many digits behind a point. -/
def fixed (l : Layout) (n places : Nat) : List Char × List Char :=
  (Nat.toDigits 10 n,
    if places = 0 && !l.showsBase then [] else '.' :: List.replicate (min places widest) '0')

/-- A natural number with one digit before the point and so many behind it, and the exponent.  A
half goes to the even neighbour. -/
def scientific (n places : Nat) : List Char × Nat :=
  let digits := Nat.toDigits 10 n
  let exponent := digits.length - 1
  let keep := min places widest + 1
  if digits.length ≤ keep then (digits ++ List.replicate (keep - digits.length) '0', exponent)
  else
    let unit := Nat.pow 10 (digits.length - keep)
    let rest := 2 * (n % unit)
    let down := n / unit
    let rounded := if unit < rest || (rest = unit && down % 2 = 1) then down + 1 else down
    let kept := Nat.toDigits 10 rounded
    if keep < kept.length then (kept.take keep, exponent + 1) else (kept, exponent)

/-- The exponent of a number in words. -/
def exponentText (letter : Char) (exponent : Nat) : List Char :=
  [letter, '+'] ++ (if exponent < 10 then ['0'] else []) ++ Nat.toDigits 10 exponent

/-- Digits behind a point, unless there are none. -/
def behindPoint (l : Layout) (digits : List Char) : List Char :=
  if digits.isEmpty && !l.showsBase then [] else '.' :: digits

/-- Digits behind a point without the zeros at the end, which only numbers that show their base
keep. -/
def shortFraction (l : Layout) (digits : List Char) : List Char :=
  l.behindPoint (if l.showsBase then digits
    else (digits.reverse.dropWhile (· = '0')).reverse)

/-- A natural number in its shorter form with so many digits: positional if they reach to the
point. -/
def general (l : Layout) (letter : Char) (n places : Nat) : List Char × List Char :=
  let places := max 1 places
  let (digits, exponent) := scientific n (places - 1)
  if exponent < places then
    (digits.take (exponent + 1), l.shortFraction (digits.drop (exponent + 1)))
  else (digits.take 1, l.shortFraction (digits.drop 1) ++ exponentText letter exponent)

/-- An integer written as a real number. -/
def asReal? (l : Layout) (n : Int) : Option (List Char) :=
  let places := l.places.getD 6
  let m := n.natAbs
  let parts : Option (List Char × List Char) :=
    match l.kind with
    | some 'f' => some (l.fixed m places)
    | some 'F' => some (l.fixed m places)
    | some '%' => some ((l.fixed (m * 100) places).map id (· ++ ['%']))
    | some 'e' =>
      let (digits, exponent) := scientific m places
      some (digits.take 1, l.behindPoint (digits.drop 1) ++ exponentText 'e' exponent)
    | some 'E' =>
      let (digits, exponent) := scientific m places
      some (digits.take 1, l.behindPoint (digits.drop 1) ++ exponentText 'E' exponent)
    | some 'g' => some (l.general 'e' m places)
    | some 'G' => some (l.general 'E' m places)
    | _ => none
  parts.map fun (digits, behind) => l.numeral 3 (l.signFor (n < 0)) digits behind

/-- The character with a number, as a layout shows it. -/
def asChar? (l : Layout) (n : Int) : Option (List Char) :=
  if l.sign.isSome || l.showsBase then none
  else some (l.numeral 3 [] [Char.ofNat n.toNat] [])

/-- An integer in a layout. -/
def integer? (l : Layout) (n : Int) : Option (List Char) :=
  match l.asReal? n with
  | some cs => if l.places.any (mostPlaces < ·) then none else some cs
  | none =>
    if l.places.isSome || l.plainZero then none
    else if l.kind = some 'c' then l.asChar? n
    else l.inBase? n

end Layout

end Template
end Entigram
