import Entigram.Schema
import Entigram.Text.Trie

/-!
# Names in use

Within one scope no two names may be the same up to case.  `UsedNames` remembers the names taken so
far, and `UsedNames.claim` finds a free one: the wanted name itself, or the wanted name with the
smallest free number from two on.

The search for the number ends by counting: when `n` names are in use and the wanted one is among
them, at most `n - 1` of its numbered forms are taken, so one of the first `n` is free.
-/

set_option autoImplicit false

namespace Entigram
namespace Naming

/-- The names taken in a scope, in folded form and without repetition.  Besides the list there is a
set of the same names, in which they are looked up. -/
structure UsedNames where
  keys : List String
  index : Text.Trie
  nodup : keys.Nodup
  indexed : ∀ key : String, index.contains key.toList = true ↔ key ∈ keys

namespace UsedNames

/-- No names. -/
def empty : UsedNames where
  keys := []
  index := .empty
  nodup := List.nodup_nil
  indexed key := by simp [Text.Trie.contains_empty]

instance : Inhabited UsedNames := ⟨empty⟩
instance : EmptyCollection UsedNames := ⟨empty⟩

/-- How many names are taken. -/
def size (u : UsedNames) : Nat := u.keys.length

/-- Is the name taken, in any spelling? -/
def contains (u : UsedNames) (name : String) : Bool :=
  u.index.contains (Text.foldChars name.toList)

theorem contains_iff {u : UsedNames} {name : String} :
    u.contains name = true ↔ Text.fold name ∈ u.keys := by
  rw [← u.indexed, contains, Text.fold, String.toList_ofList]

/-- Takes a name; a taken one changes nothing. -/
def insert (u : UsedNames) (name : String) : UsedNames :=
  if h : u.contains name then u
  else
    { keys := Text.fold name :: u.keys
      index := u.index.insert (Text.foldChars name.toList)
      nodup := List.nodup_cons.2 ⟨fun m => h (contains_iff.2 m), u.nodup⟩
      indexed key := by
        rw [Text.Trie.contains_insert, Bool.or_eq_true, u.indexed, beq_iff_eq, List.mem_cons,
          Text.fold, ← String.toList_inj, String.toList_ofList] }

/-- The names of a list. -/
def ofList (names : List String) : UsedNames := names.foldl insert empty

/-! ## Free names -/

/-- The wanted name with a number behind it. -/
def numbered (base : String) (k : Nat) : String := base ++ toString k

/-- The first number from `k` on whose name is free, among `tries` candidates. -/
def firstFree (u : UsedNames) (base : String) (k : Nat) : Nat → Nat
  | 0 => k
  | tries + 1 =>
    if u.contains (numbered base k) then firstFree u base (k + 1) tries else k

/-- A free name for the wanted one: itself, or itself with the smallest free number from two on. -/
def freeName (u : UsedNames) (base : String) : String :=
  if u.contains base then numbered base (u.firstFree base 2 u.size) else base

/-- Finds a free name and takes it. -/
def claim (u : UsedNames) (base : String) : String × UsedNames :=
  let name := u.freeName base
  (name, u.insert name)

/-- Claims a name for every wanted one, in order. -/
def claimAll (u : UsedNames) : List String → List String × UsedNames
  | [] => ([], u)
  | base :: rest =>
    let (name, u') := u.claim base
    let (names, u'') := claimAll u' rest
    (name :: names, u'')

end UsedNames

end Naming
end Entigram
