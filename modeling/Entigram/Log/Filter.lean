import Entigram.Log.Record
import Entigram.Text.Search

/-!
# Which records are shown

A record is shown if its level reaches a threshold.  Parts of the program can have thresholds of
their own, given by the beginning of their names; of several that fit, the longest counts.
-/

set_option autoImplicit false

namespace Entigram
namespace Log

/-- The modules with thresholds, those with long names first.  Of equally long ones none passes the
other. -/
def longestFirst (modules : List (String × Level)) : List (String × Level) :=
  modules.mergeSort fun a b => decide (b.1.length ≤ a.1.length)

/-- The first of the modules, those with long names first, whose name a component's name begins
with. -/
def firstMatch (modules : List (String × Level)) (name : String) : Option (String × Level) :=
  (longestFirst modules).find? fun m => Text.startsWith name m.1

/-- The level from which a component's records are shown. -/
def threshold (default : Level) (modules : List (String × Level)) (name : String) : Level :=
  match firstMatch modules name with
  | some m => m.2
  | none => default

/-- Is a record of this component and level shown?  A component without a name counts as one with
the empty name. -/
def passes (default : Level) (modules : List (String × Level)) (name : Option String)
    (number : Int) : Bool :=
  decide (((threshold default modules (name.getD "")).number : Int) ≤ number)

/-- The least of some levels. -/
def least (default : Level) (modules : List (String × Level)) : Nat :=
  modules.foldl (fun n m => min n m.2.number) default.number

theorem foldl_min_le (modules : List (String × Level)) (n : Nat) :
    modules.foldl (fun n m => min n m.2.number) n ≤ n := by
  induction modules generalizing n with
  | nil => exact Nat.le_refl n
  | cons m rest ih => exact Nat.le_trans (ih _) (Nat.min_le_left _ _)

/-- The least level is at most the default one. -/
theorem least_le_default (default : Level) (modules : List (String × Level)) :
    least default modules ≤ default.number :=
  foldl_min_le modules _

end Log
end Entigram
