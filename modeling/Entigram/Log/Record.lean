/-!
# Log records

What the program reports while it works.  A record has a level, an origin and a message; who shows
it, and in which form, is decided elsewhere.

How long a step took is not something a computation can know about itself, so a message that
mentions it is a function of the text shown for the time.
-/

set_option autoImplicit false

namespace Entigram
namespace Log

/-- How urgent a record is. -/
inductive Level
  | trace
  | debug
  | info
  | success
  | warning
  | error
  | critical
deriving Repr, DecidableEq, Inhabited

namespace Level

/-- The number that thresholds compare. -/
def number : Level → Nat
  | trace => 5
  | debug => 10
  | info => 20
  | success => 25
  | warning => 30
  | error => 40
  | critical => 50

/-- The level's name in records and settings. -/
def name : Level → String
  | trace => "TRACE"
  | debug => "DEBUG"
  | info => "INFO"
  | success => "SUCCESS"
  | warning => "WARNING"
  | error => "ERROR"
  | critical => "CRITICAL"

/-- All levels, from the least urgent. -/
def all : List Level := [trace, debug, info, success, warning, error, critical]

/-- The level of a name, in exactly this spelling. -/
def ofName? (s : String) : Option Level := all.find? fun l => l.name = s

end Level

/-- Where a record comes from. -/
structure Origin where
  /-- The part of the program, as a dotted name, if it has one. -/
  component : Option String
  /-- The operation that reported. -/
  operation : String
  /-- The line of the report, where it is known. -/
  line : Option Nat := none
deriving Repr, DecidableEq, Inhabited

/-- A report. -/
structure Record where
  level : Level
  origin : Origin
  message : String
deriving Repr, DecidableEq, Inhabited

end Log
end Entigram
