import Entigram.Number.Binary64

/-!
# The shortest decimal form of a binary number

Of the decimal numbers that a binary number is next to, the shortest is the one with the fewest
digits; of two with as few digits it is the nearer one, and of two equally near ones the even one.

The decimal numbers with a given number of digits form a grid.  If any point of the grid will do,
then so does one of the two points around the number (`Binary64.onGrid?`), and seventeen digits
always will.
-/

set_option autoImplicit false

namespace Entigram
namespace Binary64

/-- The position of the point of a quotient other than zero: the least `p` with `r < 10 ^ p`. -/
def pointOfRatio (r : Ratio) : Int :=
  let low : Int := ((r.num.log2 : Int) - (r.den.log2 : Int) - 1) * 30103 / 100000
  if r.isBelowPowerOfTen low then low
  else if r.isBelowPowerOfTen (low + 1) then low + 1
  else low + 2

/-- The point of the grid `n * 10 ^ exponent` that stands for the number `x` of magnitude `r`: the
one below it or the one above it. -/
def onGrid? (x : Binary64) (r : Ratio) (exponent : Int) : Option Decimal :=
  let scaled := r.scale 10 (-exponent)
  let below : Decimal := ⟨x.isNegative, scaled.floor, exponent⟩
  let above : Decimal := ⟨x.isNegative, scaled.floor + 1, exponent⟩
  match decide (ofDecimal below = x), decide (ofDecimal above = x) with
  | true, true => some (if scaled.roundsDown then below else above)
  | true, false => some below
  | false, true => some above
  | false, false => none

/-- The first grid with a point for the number, from some number of digits on. -/
def shortestFrom (x : Binary64) (r : Ratio) (point : Int) : Nat → Nat → Option Decimal
  | _, 0 => none
  | count, more + 1 =>
    (onGrid? x r (point - count)).or (shortestFrom x r point (count + 1) more)

/-- The decimal number without zeros at the end of its digits. -/
def withoutZeros (negative : Bool) : Nat → Nat → Int → Decimal
  | 0, digits, exponent => ⟨negative, digits, exponent⟩
  | fuel + 1, digits, exponent =>
    if digits % 10 = 0 then withoutZeros negative fuel (digits / 10) (exponent + 1)
    else ⟨negative, digits, exponent⟩

/-- The shortest decimal number for a binary number; none for an infinity. -/
def shortest? (x : Binary64) : Option Decimal :=
  match x.magnitude? with
  | none => none
  | some r =>
    if r.num = 0 then some ⟨x.isNegative, 0, 0⟩
    else
      (shortestFrom x r (pointOfRatio r) 1 17).map fun d =>
        withoutZeros d.negative 17 d.digits d.exponent

/-! ## Writing -/

/-- Is a number with its point there written with an exponent?  Only very small and very large ones
are. -/
def needsExponent (point : Int) : Bool := point ≤ -4 || 16 < point

/-- An exponent: a sign and at least two digits. -/
def exponentText (n : Int) : String :=
  let digits := toString n.natAbs
  (if n < 0 then "e-" else "e+") ++ (if digits.length < 2 then "0" else "") ++ digits

/-- The text of digits with a point in them: at least one digit on either side. -/
def positional (digits : List Char) (point : Int) : List Char :=
  if point ≤ 0 then '0' :: '.' :: (List.replicate (-point).toNat '0' ++ digits)
  else
    let whole := digits.take point.toNat
    let fraction := digits.drop point.toNat
    whole ++ List.replicate (point.toNat - whole.length) '0'
      ++ '.' :: if fraction.isEmpty then ['0'] else fraction

/-- The text of digits with a point behind the first and an exponent. -/
def scientific (digits : List Char) (point : Int) : List Char :=
  let fraction := digits.drop 1
  digits.take 1 ++ (if fraction.isEmpty then [] else '.' :: fraction)
    ++ (exponentText (point - 1)).toList

/-- The text of a decimal number. -/
def decimalText (d : Decimal) : String :=
  let digits := (toString d.digits).toList
  let point := if d.digits = 0 then 1 else pointOf d
  (if d.negative then "-" else "")
    ++ String.ofList (if needsExponent point then scientific digits point
      else positional digits point)

/-- The text of a number in its shortest form, given a word for infinity. -/
def text (infinity : String) (x : Binary64) : String :=
  match x.shortest? with
  | some d => decimalText d
  | none => (if x.isNegative then "-" else "") ++ infinity

end Binary64
end Entigram
