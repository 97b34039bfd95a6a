import Entigram.Command.Arguments
import Entigram.Generation

/-!
# The command `generate`

It converts a diagram and either prints both sources or writes them to a directory: the one that an
option names, else the configured one.
-/

set_option autoImplicit false

namespace Entigram
namespace Command

/-- The options of `generate`. -/
def generateOptions : List OptionSpec :=
  [{ name := "output-dir", long := "--output-dir", short := some 'o' },
    { name := "stdout", long := "--stdout", takesValue := false },
    { name := "context-name", long := "--context-name" },
    { name := "namespace", long := "--namespace" },
    { name := "target", long := "--target" }]

/-- The settings that the options of `generate` replace. -/
def overrides (p : Parsed) : Json.Fields :=
  [("context_name", p.value? "context-name"), ("namespace", p.value? "namespace"),
    ("target", p.value? "target")].filterMap fun o => o.2.map fun v => (o.1, Json.str v)

/-- Checks an option of `generate`.  A target is asked for by exactly its name. -/
def checkGenerateOption (w : World) (name value : String) : Except UsageError Unit :=
  match name with
  | "output-dir" => checkKind w Node.isFile value
  | "target" =>
    if Target.all.any fun t => t.name = value then .ok () else .error (.badChoice "--target" value)
  | _ => .ok ()

/-- Prints both sources, each after the name of its file. -/
def printSources (settings : Config.Codegen) (c : Generation.Conversion) : Action Unit := do
  printLine s!"// {settings.entitiesFilename}"
  printLine c.entities
  printLine s!"// {settings.contextFilename}"
  printLine c.mapping

/-- Writes both sources to a directory, which is made if it is missing. -/
def writeSources (settings : Config.Codegen) (dir : Path) (c : Generation.Conversion) :
    Action Unit := do
  let entities := dir.join (Path.ofString settings.entitiesFilename)
  let context := dir.join (Path.ofString settings.contextFilename)
  makeDirectory dir
  writeFile entities c.entities
  writeFile context c.mapping
  report [⟨.success, origin "generate",
    s!"Generated {c.schema.entities.length} entities: {entities}, {context}"⟩]

/-- The configured settings with what the options say instead. -/
def codegenSettings (settings : Config.Settings) (p : Parsed) : Action Config.Codegen :=
  match settings.codegen.override (overrides p) with
  | .issues _ => misuse .invalidOverride
  | .notAPath => fail "Error: output_dir is not a path"
  | .ok codegen => pure codegen

/-- Generates the sources for a diagram. -/
def generate (settings : Config.Settings) (input : String) (words : List String) : Action Unit := do
  let p ← commandLine generateOptions words
  let world := (← get).world
  orMisuse (p.checkOptions (checkGenerateOption world))
  let text ← orMisuse (diagramArgument world input p.arguments)
  let codegen ← codegenSettings settings p
  let converted := Generation.convert codegen.style world.elapsed text
  report converted.log
  match converted.result with
  | .error (.unresolved u) => fail s!"Generation failed: {u.message}"
  | .error (.unnamed _) => fail "Error: a class has no name"
  | .ok c =>
    match if p.has "stdout" then none else (p.path? "output-dir").or codegen.outputDir with
    | none => printSources codegen c
    | some dir => writeSources codegen dir c

end Command
end Entigram
