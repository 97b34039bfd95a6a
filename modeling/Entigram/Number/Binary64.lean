/-!
# Binary numbers of 64 bits

The numbers `± significand * 2 ^ exponent` whose significand has at most 53 bits and whose exponent
lies between -1074 and 971, and two infinities beyond them.  Zero has a sign.

A decimal number stands for the binary number next to it; of two that are equally near, the one
whose significand is even (`Binary64.ofDecimal`).  Everything is exact arithmetic on natural
numbers.
-/

set_option autoImplicit false

namespace Entigram

/-- The decimal number `± digits * 10 ^ exponent`. -/
structure Decimal where
  negative : Bool := false
  digits : Nat
  exponent : Int
deriving Repr, DecidableEq

/-- A binary number of 64 bits, in lowest form: either the significand has all its 53 bits, or the
exponent is the least one. -/
inductive Binary64
  | finite (negative : Bool) (significand : Nat) (exponent : Int)
  | infinite (negative : Bool)
deriving Repr, DecidableEq, Inhabited

/-- The quotient `num / den` of natural numbers. -/
structure Ratio where
  num : Nat
  den : Nat
deriving Repr

namespace Ratio

/-- The quotient times `base ^ exponent`. -/
def scale (r : Ratio) (base : Nat) (exponent : Int) : Ratio :=
  if 0 ≤ exponent then { r with num := r.num * base.pow exponent.toNat }
  else { r with den := r.den * base.pow (-exponent).toNat }

/-- The greatest natural number that is not above the quotient. -/
def floor (r : Ratio) : Nat := r.num / r.den

/-- Is the quotient nearer to its floor, or as near and the floor even? -/
def roundsDown (r : Ratio) : Bool :=
  let rest := 2 * (r.num % r.den)
  rest < r.den || (rest = r.den && r.floor % 2 = 0)

/-- The nearest natural number; a half goes to the even neighbour. -/
def round (r : Ratio) : Nat := if r.roundsDown then r.floor else r.floor + 1

/-- Is the quotient less than a power of ten? -/
def isBelowPowerOfTen (r : Ratio) (exponent : Int) : Bool := (r.scale 10 (-exponent)).floor = 0

end Ratio

namespace Binary64

/-- The number of bits of a significand. -/
def precision : Nat := 53

/-- The least significand that has all its bits. -/
def leastFull : Nat := Nat.pow 2 (precision - 1)

/-- The least exponent. -/
def leastExponent : Int := -1074

/-- The greatest exponent. -/
def greatestExponent : Int := 971

/-- Zero. -/
def zero (negative : Bool) : Binary64 := finite negative 0 leastExponent

/-- The exponent that a quotient other than zero is rounded with: the one that leaves all bits of
the significand in front of the point, unless that is too small. -/
def exponentFor (r : Ratio) : Int :=
  let guess : Int := (r.num.log2 : Int) - (r.den.log2 : Int) - (precision - 1 : Nat)
  let exponent :=
    if (r.scale 2 (-guess)).floor < leastFull then guess - 1 else guess
  max exponent leastExponent

/-- The number with a significand that rounding may have carried to one bit more. -/
def carried (negative : Bool) (significand : Nat) (exponent : Int) : Binary64 :=
  let (significand, exponent) :=
    if significand = 2 * leastFull then (leastFull, exponent + 1)
    else (significand, exponent)
  if greatestExponent < exponent then infinite negative else finite negative significand exponent

/-- The number next to a quotient. -/
def ofRatio (negative : Bool) (r : Ratio) : Binary64 :=
  if r.num = 0 then zero negative
  else
    let exponent := exponentFor r
    carried negative (r.scale 2 (-exponent)).round exponent

/-- The position of the point of a decimal number, counted from its first digit. -/
def pointOf (d : Decimal) : Int := (toString d.digits).length + d.exponent

/-- The number next to a decimal number. -/
def ofDecimal (d : Decimal) : Binary64 :=
  if d.digits = 0 || pointOf d < -330 then zero d.negative
  else if 310 < pointOf d then infinite d.negative
  else ofRatio d.negative (Ratio.scale ⟨d.digits, 1⟩ 10 d.exponent)

/-- The number without its sign, as a quotient; none for an infinity. -/
def magnitude? : Binary64 → Option Ratio
  | finite _ significand exponent => some (Ratio.scale ⟨significand, 1⟩ 2 exponent)
  | infinite _ => none

/-- Does the number have a minus sign? -/
def isNegative : Binary64 → Bool
  | finite negative _ _ => negative
  | infinite negative => negative

/-- Is it zero, with either sign? -/
def isZero : Binary64 → Bool
  | finite _ significand _ => significand = 0
  | infinite _ => false

/-! ## Arithmetic -/

/-- The number next to an integral multiple of a fraction of one. -/
def ofQuotient (num : Int) (den : Nat) : Binary64 := ofRatio (num < 0) ⟨num.natAbs, den⟩

/-- The product, where the other factor is neither zero nor infinite. -/
def times (x y : Binary64) : Binary64 :=
  let negative := x.isNegative != y.isNegative
  match x.magnitude?, y.magnitude? with
  | some r, some q => ofRatio negative ⟨r.num * q.num, r.den * q.den⟩
  | _, _ => infinite negative

/-- The sum; two infinities of different signs have none. -/
def plus? (x y : Binary64) : Option Binary64 :=
  match x.magnitude?, y.magnitude? with
  | some r, some q =>
    let signed (z : Binary64) (n : Nat) : Int := if z.isNegative then -n else n
    some (ofQuotient (signed x (r.num * q.den) + signed y (q.num * r.den)) (r.den * q.den))
  | some _, none => some y
  | none, some _ => some x
  | none, none => if x.isNegative = y.isNegative then some x else none

/-! ## Integers -/

/-- The integer that the number is, if it is one. -/
def toInt? (x : Binary64) : Option Int :=
  match x.magnitude? with
  | some r =>
    if r.num % r.den = 0 then some (if x.isNegative then -r.floor else r.floor) else none
  | none => none

end Binary64

end Entigram
