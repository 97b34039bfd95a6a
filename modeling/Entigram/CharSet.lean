/-!
# Sets of characters

A set of characters is written down by the code points at which membership *changes*: the first
is the first member, the second the first non-member after it, and so on.  The properties that
Unicode defines are long runs of neighbours, so this is the shortest table for them, and a lookup
is a walk along the boundaries that flips its answer at each one.
-/

set_option autoImplicit false

namespace Entigram

/-- A set of characters, given by the ascending code points at which membership changes. -/
structure CharSet where
  /-- The boundaries: members begin at the first, end before the second, and so on. -/
  bounds : List Nat
deriving Repr

namespace CharSet

/-- Membership of a code point: every boundary at or below it flips the answer. -/
def flips : List Nat → Nat → Bool
  | [], _ => false
  | b :: bs, n => decide (b ≤ n) && !flips bs n

/-- Is the character in the set? -/
def contains (s : CharSet) (c : Char) : Bool := flips s.bounds c.toNat

theorem flips_nil (n : Nat) : flips [] n = false := rfl

theorem flips_cons (b : Nat) (bs : List Nat) (n : Nat) :
    flips (b :: bs) n = (decide (b ≤ n) && !flips bs n) := rfl

end CharSet

end Entigram
