import Entigram.Command.Arguments
import Entigram.Generation
import Entigram.Listing

/-!
# The command `inspect`

It shows what was read of a diagram: as two tables, or as a listing that is printed or written to a
file.
-/

set_option autoImplicit false

namespace Entigram
namespace Command

/-- The options of `inspect`. -/
def inspectOptions : List OptionSpec :=
  [{ name := "json", long := "--json", takesValue := false },
    { name := "output", long := "--output" }]

/-- Checks an option of `inspect`. -/
def checkInspectOption (w : World) (name value : String) : Except UsageError Unit :=
  match name with
  | "output" => checkKind w (fun n => !n.isFile) value
  | _ => .ok ()

/-- Shows the tables of a schema. -/
def showTables (s : Schema) : Action Unit := do
  modify fun r => { r with tables := r.tables ++ [entityTable s, relationshipTable s] }
  (Generation.warnings s).forM printLine

/-- Writes the listing of a schema to a file, in a directory that is made if it is missing. -/
def writeListing (s : Schema) (path : Path) : Action Unit := do
  makeDirectory path.parent
  writeFile path s.listing
  report [⟨.success, origin "inspect", s!"Schema written to {path}"⟩]

/-- Shows what was read of a diagram. -/
def inspect (input : String) (words : List String) : Action Unit := do
  let p ← commandLine inspectOptions words
  let world := (← get).world
  orMisuse (p.checkOptions (checkInspectOption world))
  let text ← orMisuse (diagramArgument world input p.arguments)
  let reading := Diagram.read text
  report (reading.log world.elapsed)
  match p.path? "output" with
  | some path => writeListing reading.schema path
  | none =>
    if p.has "json" then printLine reading.schema.listing else showTables reading.schema

end Command
end Entigram
