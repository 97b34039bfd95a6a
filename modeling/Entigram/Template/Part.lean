import Entigram.Template.Value

/-!
# Parts of values

A template can select a part of a value by its name (`Value.part`), or an item by its place or its
key (`Value.item`).  Parts that a value has of its own come first; then what can be done with it,
and at last what every value has: its kind, and what the kind says about itself.

A kind has parts too: what is the same for all its values, and as members the parts and actions of
its values.
-/

set_option autoImplicit false

namespace Entigram
namespace Template
namespace Value

/-! ## Parts that are the same for all values of a kind -/

/-- The first moment. -/
def first : Moment :=
  { year := 1, month := 1, day := 1, hour := 0, minute := 0, second := 0 }

/-- The last moment. -/
def last : Moment :=
  { year := 9999, month := 12, day := 31, hour := 23, minute := 59, second := 59
    microsecond := 999999 }

/-- The zone that others are counted from. -/
def universalZone : Value := zone "UTC" "datetime.timezone.utc"

/-- A zone without a name. -/
def unnamedZone (s : String) (offset : Duration) : Value :=
  zone s s!"datetime.timezone({offset.inParts})"

/-- The zone of a clock. -/
def clockZone : Value := zone "UTC" zoneText

/-- The offset of the zone that is the furthest from the one that others are counted from. -/
def furthest : Int := (24 * 60 - 1) * 60 * Duration.secondLength

/-- A part that all values of a kind share, and the kind itself has too. -/
def sharedPart? (k : Kind) (name : String) : Option Value :=
  if k = .shown || k = .bound then
    match name with
    | "min" => some (bound first)
    | "max" => some (bound last)
    | "resolution" => some (span { microseconds := 1 })
    | _ => none
  else if k = .span then
    match name with
    | "min" => some (span .least)
    | "max" => some (span .greatest)
    | "resolution" => some (span { microseconds := 1 })
    | _ => none
  else if k = .zone then
    match name with
    | "utc" => some universalZone
    | "min" => some (unnamedZone "UTC-23:59" { microseconds := -furthest })
    | "max" => some (unnamedZone "UTC+23:59" { microseconds := furthest })
    | _ => none
  else none

/-! ## Parts that differ from value to value -/

/-- A part of a moment. -/
def momentPart? (m : Moment) (zone : Value) : String → Option Value
  | "year" => some (integer m.year)
  | "month" => some (integer m.month)
  | "day" => some (integer m.day)
  | "hour" => some (integer m.hour)
  | "minute" => some (integer m.minute)
  | "second" => some (integer m.second)
  | "microsecond" => some (integer m.microsecond)
  | "fold" => some (integer 0)
  | "tzinfo" => some zone
  | _ => none

/-- A part of a kind: what describes it, or a member. -/
def kindPart? (k : Kind) (name : String) : Option Value :=
  let described := match name with
    | "__name__" => some (ofString k.name)
    | "__qualname__" => some (ofString k.name)
    | "__module__" => some (ofString k.group)
    | "__base__" => some ((k.above.head?.map kind).getD nothing)
    | "__bases__" => some (kinds (k.above.take 1))
    | "__mro__" => some (kinds (k :: k.above))
    | "__doc__" => some ((k.explanation?.map ofString).getD nothing)
    | "__text_signature__" => some nothing
    | _ => none
  let size := if ["__basicsize__", "__dictoffset__", "__flags__", "__itemsize__",
    "__weakrefoffset__"].contains name then some (integer 0) else none
  let member :=
    if k.parts.contains name then
      some (.described s!"<attribute '{name}' of '{k.fullName}' objects>")
    else if k.actions.contains name then
      some (.described s!"<method '{name}' of '{k.fullName}' objects>")
    else if name = "__dict__" then some (.described Kind.longText)
    else if k = .clock || k = .shown then
      match name with
      | "__annotations__" => some (record none)
      | "__weakref__" => some (.described s!"<attribute '__weakref__' of '{k.name}' objects>")
      | _ => none
    else none
  ((described.or size).or (sharedPart? k name)).or member

/-- A part of an action: its name, what it is for in a word, and whose action it is. -/
def actionPart? (a : String) (owner : Value) (name : String) : Option Value :=
  let isHidden := Kind.ofAction a = .hiddenAction
  match name with
  | "__name__" => some (ofString a)
  | "__qualname__" => some (ofString s!"{owner.kindOf.name}.{a}")
  | "__doc__" => some (ofString a)
  | "__self__" => some owner
  | "__module__" => if isHidden then none else some nothing
  | "__objclass__" => if isHidden then some (kind owner.kindOf) else none
  | "__text_signature__" =>
    let isSigned := isHidden || owner.kindOf = .text || Kind.commonActions.contains a
    some (if isSigned then ofString "($self, /)" else nothing)
  | _ => none

/-- A part that a value has of its own. -/
def ownPart? (v : Value) (name : String) : Option Value :=
  match v, name with
  | clock now, "datetime" => some (moment now)
  | clock now, "__dict__" => some (record (some now))
  | moment _, "__dict__" => some (record none)
  | clock _, "__module__" => some (ofString Kind.clock.group)
  | moment _, "__module__" => some (ofString Kind.shown.group)
  | clock _, "__weakref__" => some nothing
  | moment _, "__weakref__" => some nothing
  | moment m, _ => momentPart? m clockZone name
  | bound m, _ => momentPart? m nothing name
  | span d, "days" => some (integer d.days)
  | span d, "seconds" => some (integer d.seconds)
  | span d, "microseconds" => some (integer d.rest)
  | integer n, "real" => some (integer n)
  | integer n, "numerator" => some (integer n)
  | integer _, "imag" => some (integer 0)
  | integer _, "denominator" => some (integer 1)
  | kind k, _ => kindPart? k name
  | action a owner, _ => actionPart? a owner name
  | described _, "__doc__" => some nothing
  | _, _ => none

/-- A part that a value has like all others of its kind. -/
def commonPart? (v : Value) (name : String) : Option Value :=
  if name = "__class__" then some (kind v.kindOf)
  else if name = "__doc__" then some ((v.kindOf.explanation?.map ofString).getD nothing)
  else if v.kindOf.actions.contains name then some (action name v)
  else sharedPart? v.kindOf name

/-- A part of a value. -/
def part (v : Value) (name : String) : Except Fault Value :=
  match (v.ownPart? name).or (v.commonPart? name) with
  | some p => .ok p
  | none => .error .noPart

/-! ## Items -/

/-- The item of a value at a place, or with a key that is no number. -/
def item (v : Value) (place : Option Nat) (key : String) : Except Fault Value :=
  match v, place with
  | text cs, some n =>
    match cs[n]? with
    | some c => .ok (text [c])
    | none => .error .noPlace
  | kinds ks, some n =>
    match ks[n]? with
    | some k => .ok (kind k)
    | none => .error .noPlace
  | record (some now), none => if key = "datetime" then .ok (moment now) else .error .noKey
  | record _, _ => .error .noKey
  | _, _ => .error .noItems

end Value

end Template
end Entigram
