import Entigram.Number.Binary64

/-!
# JSON values

What listings are written as and what configuration files hold.  The fields of an object keep their
order, and every key stands for one field: `put` changes the field of a key where it is, or adds one
at the end.
-/

set_option autoImplicit false

namespace Entigram

/-- A JSON value.  Numbers are integers of any size, or binary numbers of 64 bits. -/
inductive Json
  | null
  | bool (b : Bool)
  | int (n : Int)
  | real (x : Binary64)
  | str (s : String)
  | arr (items : List Json)
  | obj (fields : List (String × Json))
deriving Repr, Inhabited, BEq

namespace Json

/-- The fields of an object, in order. -/
abbrev Fields := List (String × Json)

/-- The value of a key. -/
def get? (key : String) : Fields → Option Json
  | [] => none
  | (k, v) :: rest => if k = key then some v else get? key rest

/-- Gives a key a value: in its place if the key is there, at the end otherwise. -/
def put (key : String) (value : Json) : Fields → Fields
  | [] => [(key, value)]
  | (k, v) :: rest => if k = key then (key, value) :: rest else (k, v) :: put key value rest

theorem get?_put (fields : Fields) (key other : String) (value : Json) :
    get? other (put key value fields) = if key = other then some value else get? other fields := by
  induction fields with
  | nil => simp [put, get?]
  | cons f rest ih =>
    obtain ⟨k, v⟩ := f
    by_cases hk : k = key
    · by_cases h : key = other <;> simp [put, get?, hk, h]
    · by_cases h : k = other
      · subst h
        simp [put, get?, hk, Ne.symm hk]
      · simp [put, get?, hk, h, ih]

end Json

end Entigram
