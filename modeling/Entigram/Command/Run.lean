import Entigram.Command.Generate
import Entigram.Command.Inspect
import Entigram.Command.Startup

/-!
# Running the program

The program as a function of its surroundings, its input and its arguments (`run`).
-/

set_option autoImplicit false

namespace Entigram
namespace Command

/-- Describes the program. -/
def info (words : List String) : Action Unit := do
  noArguments words
  printLine s!"er2code version: {version}"
  printLine s!"Python version: {(← get).world.platform}"
  printLine ("Targets: " ++ ", ".intercalate (Target.all.map Target.name))

/-- Shows the logger. -/
def showLogger (words : List String) : Action Unit := do
  noArguments words
  let r ← get
  let (prints, result) := r.logger.showInformation r.world
  set { r with prints := r.prints ++ prints }
  match result with
  | .ok () => pure ()
  | .error (.refused _) => fail "Error: a text is no well-formed markup"
  | .error (.file fault) => fail s!"Error: {faultText fault}"

/-- The commands about logging. -/
def logs (words : List String) : Action Unit := do
  if words.isEmpty then misuse .noCommand
  let p ← orMisuse (parse [helpOption] false words)
  answerAtOnce p
  match p.arguments with
  | [] => misuse .noCommand
  | "show" :: rest => showLogger rest
  | name :: rest => noSuchCommand [helpOption] (fun _ => .ok ()) name rest

/-! ## Whole runs -/

/-- The names of the commands. -/
def commandNames : List String := ["generate", "inspect", "info", "logs"]

/-- Carries a command out. -/
def carryOut (settings : Config.Settings) (input name : String) (words : List String) :
    Action Unit :=
  match name with
  | "generate" => generate settings input words
  | "inspect" => inspect input words
  | "info" => info words
  | _ => logs words

/-- A run from its arguments. -/
def action (input : String) (words : List String) : Action Unit := do
  if words.isEmpty then misuse .noCommand
  let p ← orMisuse (parse globalOptions false words)
  answerAtOnce p
  let world := (← get).world
  let request ← orMisuse (setupRequest world p)
  match p.arguments with
  | [] => misuse .noCommand
  | name :: rest =>
    if commandNames.contains name then
      let settings ← prepare request
      carryOut settings input name rest
    else
      let check p := (setupRequest world p).map fun _ => ()
      noSuchCommand globalOptions check name rest

/-- Runs the program: the status and everything that the run changed. -/
def run (world : World) (input : String) (words : List String) : Status × Run :=
  match (action input words).run.run { world } with
  | (.ok (), r) => (0, r)
  | (.error status, r) => (status, r)

end Command
end Entigram
