import Entigram.Config.Settings
import Entigram.Console.Print
import Entigram.Log.Filter
import Entigram.World

/-!
# Where records go

A record can go to the console and to a file.  The console shows it as markup, in one of two
formats; if that is refused as markup, because the message holds tags of its own, it is shown as
plain text.  The file gets one line for every record.
-/

set_option autoImplicit false

namespace Entigram
namespace Log

/-- The component of an origin. -/
def Origin.componentText (o : Origin) : String := o.component.getD "None"

/-- The line of an origin; one that is not known has a place-holder. -/
def Origin.lineText (o : Origin) : String :=
  match o.line with
  | some n => toString n
  | none => "<line>"

/-! ## The console -/

/-- How the console shows records. -/
structure ConsoleSink where
  level : Level
  modules : List (String × Level)
  detailed : Bool
  showTime : Bool
  showLevel : Bool
  showPath : Bool
deriving Repr

/-- The console that settings ask for. -/
def ConsoleSink.ofSettings (level : Level) (verbose : Bool) (l : Config.Logging) : ConsoleSink where
  level := level
  modules := l.modules
  detailed := verbose || l.console.format = .detailed
  showTime := l.console.showTime
  showLevel := l.console.showLevel
  showPath := l.console.showPath

/-- The style of a level's name. -/
def Level.style : Level → String
  | error => "bold red"
  | critical => "bold red"
  | warning => "bold orange1"
  | success => "bold green"
  | _ => "bold"

namespace ConsoleSink

/-- Does the console show the record?  It has a least level of its own, which lets through whatever
the thresholds do. -/
def accepts (sink : ConsoleSink) (component : Option String) (number : Int) : Bool :=
  decide ((least sink.level sink.modules : Int) ≤ number)
    && passes sink.level sink.modules component number

/-- Where a record comes from, as the detailed format shows it. -/
def location (sink : ConsoleSink) (o : Origin) : String :=
  s!"{o.componentText}:{o.operation}" ++ (if sink.showPath then s!":{o.lineText}" else "")

/-- The markup of a record. -/
def markup (sink : ConsoleSink) (now : Moment) (r : Record) : String :=
  let time := Console.styled "green" now.timeOfDay
  let level := Console.styled r.level.style r.level.name
  if sink.detailed then
    let location := Console.styled "cyan" (sink.location r.origin)
    s!"{time} | {level} | {location} - {r.message}"
  else
    " | ".intercalate ((if sink.showTime then [time] else [])
      ++ (if sink.showLevel then [level] else []) ++ [r.message])

/-- The plain text of a record. -/
def plain (now : Moment) (r : Record) : String := s!"{now.timeOfDay} | {r.level.name} | {r.message}"

/-- What shows a record: its markup or, if that is refused, its plain text. -/
def print (sink : ConsoleSink) (w : World) (r : Record) : Console.Print :=
  let markup := sink.markup w.now r
  match w.libraries.checkMarkup markup with
  | .ok () => .markup markup
  | .error _ => .plain (plain w.now r)

/-- What the console prints for a record: nothing if the record does not concern it. -/
def prints (sink : ConsoleSink) (w : World) (r : Record) : List Console.Print :=
  if sink.accepts r.origin.component r.level.number then [sink.print w r] else []

end ConsoleSink

/-! ## The file -/

/-- A file for records. -/
structure FileSink where
  level : Level
  file : LogFile

namespace FileSink

/-- Does the record go to the file? -/
def accepts (sink : FileSink) (r : Record) : Bool := decide (sink.level.number ≤ r.level.number)

/-- A text filled up with blanks to a width. -/
def filled (width : Nat) (s : String) : String :=
  s ++ String.ofList (List.replicate (width - s.length) ' ')

/-- The line of a record. -/
def line (now : Moment) (r : Record) : String :=
  let o := r.origin
  s!"{now.stamp} | {filled 8 r.level.name} | "
    ++ s!"{o.componentText}:{o.operation}:{o.lineText} - {r.message}\n"

end FileSink

end Log
end Entigram
