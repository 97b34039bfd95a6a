import Entigram.Moment.Duration
import Entigram.Moment.Pattern
import Entigram.Template.Kind
import Entigram.Template.Layout
import Entigram.Text.Quoted

/-!
# What templates can mention

A value in a template is a text, an integer, a moment, or one of the things around them that a
template can select: the clock that completes the names of files, lengths of time and zones; kinds,
actions and records; and the absence of a value.

A value can be described (`Value.description`) and written (`Value.written`); only texts, integers
and moments can be written in more than one way.  A clock and what can be done with a value have no
texts of their own: they are told by where the value is kept, which is another place in every run
(`address`).
-/

set_option autoImplicit false

namespace Entigram
namespace Template

/-- Why a template cannot be resolved. -/
inductive Fault
  /-- A brace or a part of a placeholder is out of order. -/
  | malformed
  /-- A placeholder without a name, or with a number instead. -/
  | unnamed
  /-- A placeholder whose name has no value. -/
  | unknown (name : String)
  /-- A value that has no part of this name. -/
  | noPart
  /-- A value that has no items of this sort. -/
  | noItems
  /-- A place behind the last item. -/
  | noPlace
  /-- A key that is in no record. -/
  | noKey
  /-- A way of writing that the value does not understand. -/
  | badFormat
  /-- A way of writing for a value that has only one. -/
  | noFormats
  /-- A way of writing that takes more room than there is. -/
  | tooWide
deriving Repr, DecidableEq

/-- A value. -/
inductive Value
  | text (cs : List Char)
  | integer (n : Int)
  /-- The clock that completes the names of files. -/
  | clock (now : Moment)
  /-- The named values of a clock, or none. -/
  | record (now : Option Moment)
  /-- What a clock shows. -/
  | moment (m : Moment)
  /-- The first or the last moment, which has no zone. -/
  | bound (m : Moment)
  | span (length : Duration)
  | zone (s description : String)
  | kind (k : Kind)
  | kinds (ks : List Kind)
  /-- Something that can be done with a value. -/
  | action (name : String) (owner : Value)
  /-- A value with a text and nothing else. -/
  | described (s : String)
  | nothing
deriving Repr, DecidableEq

namespace Value

/-- A text. -/
def ofString (s : String) : Value := text s.toList

/-- The kind of a value. -/
def kindOf : Value → Kind
  | text _ => .text
  | integer _ => .integer
  | clock _ => .clock
  | record _ => .record
  | moment _ => .shown
  | bound _ => .bound
  | span _ => .span
  | zone _ _ => .zone
  | kind _ => .kind
  | kinds _ => .kinds
  | action name _ => .ofAction name
  | described _ => .member
  | nothing => .nothing

/-! ## Texts of values -/

/-- The description of a clock that is kept in some place. -/
def clockText (place : String) : String := s!"<{Kind.clock.fullName} object at {place}>"

/-- The numbers of a moment, with commas.  Seconds and smaller parts are left out if they are
zero. -/
def momentNumbers (m : Moment) : String :=
  let always := [m.year, m.month, m.day, m.hour, m.minute]
  let more :=
    if m.microsecond ≠ 0 then [m.second, m.microsecond]
    else if m.second ≠ 0 then [m.second]
    else []
  ", ".intercalate ((always ++ more).map toString)

/-- The description of the zone of a clock. -/
def zoneText : String := "datetime.timezone(datetime.timedelta(0), 'UTC')"

/-- The description of a moment. -/
def momentText (m : Moment) : String :=
  s!"datetime({momentNumbers m}, tzinfo={zoneText})"

/-- The text of an action on a value that is kept in some place. -/
def actionText (name : String) (owner : Kind) (place : String) : String :=
  let shown := if owner = .shown then owner.name else owner.fullName
  let action :=
    if Kind.ofAction name = .hiddenAction then s!"method-wrapper '{name}'"
    else s!"built-in method {name}"
  s!"<{action} of {shown} object at {place}>"

section texts

-- `address` says where a value is kept.
variable (address : Value → String)

/-- The text of a value that is asked for as it is. -/
def plainText : Value → List Char
  | text cs => cs
  | integer n => (toString n).toList
  | clock now => (clockText (address (clock now))).toList
  | record none => ['\x7b', '\x7d']
  | record (some now) => ("\x7b'datetime': " ++ momentText now ++ "\x7d").toList
  | moment m => (m.preciseStamp ++ "+00:00").toList
  | bound m => m.preciseStamp.toList
  | span length => length.inWords.toList
  | zone s _ => s.toList
  | kind k => k.inWords.toList
  | kinds [k] => s!"({k.inWords},)".toList
  | kinds ks => ("(" ++ ", ".intercalate (ks.map Kind.inWords) ++ ")").toList
  | action name owner => (actionText name owner.kindOf (address owner)).toList
  | described s => s.toList
  | nothing => "None".toList

/-- The description of a value. -/
def description : Value → List Char
  | text cs => (Text.quoted cs).toList
  | moment m => (momentText m).toList
  | bound m => s!"datetime.datetime({momentNumbers m})".toList
  | span length => length.inParts.toList
  | zone _ description => description.toList
  | v => v.plainText address

/-- The value that is written instead of another, if a letter asks for a description. -/
def describedAs (letter : Option Char) (v : Value) : Except Fault Value :=
  match letter with
  | none => .ok v
  | some 's' => .ok (text (v.plainText address))
  | some 'r' => .ok (text (v.description address))
  | some 'a' => .ok (text (v.description address))
  | some _ => .error .badFormat

/-- Something that a value may not understand. -/
def orBadFormat (cs : Option (List Char)) : Except Fault (List Char) :=
  match cs with
  | some cs => .ok cs
  | none => .error .badFormat

/-- A text in a layout that a value may not understand. -/
def inLayout (write? : Layout → Option (List Char)) (format : List Char) :
    Except Fault (List Char) := do
  let some layout := Layout.ofChars? format | throw .badFormat
  let cs ← orBadFormat (write? layout)
  if Layout.room < layout.width then throw .tooWide else return cs

/-- The text of a value that is to be written in some way. -/
def written (v : Value) (format : List Char) : Except Fault (List Char) :=
  match v with
  | text cs => inLayout (·.text? cs) format
  | integer n => inLayout (·.integer? n) format
  | clock now =>
    if format.isEmpty then .ok now.fileStamp.toList else orBadFormat (now.inPattern? format)
  | moment m => orBadFormat (m.inPattern? format)
  | bound m => .ok (if format.isEmpty then v.plainText address else m.byDirectives "" "" format)
  | _ => if format.isEmpty then .ok (v.plainText address) else .error .noFormats

end texts

end Value

end Template
end Entigram
