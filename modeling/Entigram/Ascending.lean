/-!
# Ascending tables

The tables of characters are long and are looked up for every character of a text, so the entry for
a character is found by halving.  A table gives the entries in the ascending order of their keys,
and what is looked for is the last entry whose key is not above a number (`Ascending.last?`).

Halving works for every question that is answered yes up to some position and no from there on.
-/

set_option autoImplicit false

namespace Entigram
namespace Ascending

/-- The first of the positions from `low` on, and before `high`, for which `before` does not hold,
or `high`; found in so many steps. -/
@[specialize]
def boundary (before : Nat → Bool) : Nat → Nat → Nat → Nat
  | 0, low, _ => low
  | steps + 1, low, high =>
    if low < high then
      let middle := (low + high) / 2
      if before middle then boundary before steps (middle + 1) high
      else boundary before steps low middle
    else low

/-- The last entry of a table whose key is at most `n`. -/
@[inline]
def last? {α : Type} (key : α → Nat) (table : Array α) (n : Nat) : Option α :=
  match boundary (fun i => table[i]?.any fun a => decide (key a ≤ n)) table.size 0 table.size with
  | 0 => none
  | i + 1 => table[i]?

end Ascending
end Entigram
