import Entigram.Command.Arguments

/-!
# Before the command

The options in front of the command choose the configuration.  It is loaded, and the logger is set
up from it, before the command's own words are read: a mistake behind the command's name is found
after the log file was opened.
-/

set_option autoImplicit false

namespace Entigram
namespace Command

/-- The names of environments and what they stand for. -/
def environments : List (String × String) :=
  [("dev", "development"), ("development", "development"), ("prod", "production"),
    ("production", "production"), ("test", "test")]

/-- The variable that names the environment if no option does. -/
def environmentVariable : String := "ER2CODE_ENVIRONMENT"

/-- The options in front of the command. -/
def globalOptions : List OptionSpec :=
  [{ name := "version", long := "--version", takesValue := false },
    { name := "config", long := "--config", short := some 'c' },
    { name := "env", long := "--env", short := some 'e' },
    { name := "verbose", long := "--verbose", short := some 'v', takesValue := false },
    { name := "log-file", long := "--log-file" },
    helpOption]

/-- The environment's name: an option, else the variable if it is not empty, else the default. -/
def environmentName (w : World) (p : Parsed) : String :=
  match p.value? "env" with
  | some name => name
  | none =>
    match w.vars.lookup environmentVariable with
    | some name => if name = "" then "development" else name
    | none => "development"

/-- The environment that a name stands for. -/
def environment (name : String) : Except UsageError String :=
  match environments.lookup name with
  | some environment => .ok environment
  | none => .error (.badChoice "--env" name)

/-- Checks an option in front of the command. -/
def checkGlobalOption (w : World) (name value : String) : Except UsageError Unit :=
  match name with
  | "config" => checkExists w value
  | "env" => (environment value).map fun _ => ()
  | "log-file" => checkKind w (fun _ => false) value
  | _ => .ok ()

/-- How to set the logger up, as the options in front of the command say. -/
def setupRequest (w : World) (p : Parsed) : Except UsageError Log.SetupRequest := do
  p.checkOptions (checkGlobalOption w)
  return {
    verbose := p.has "verbose"
    logFile := p.path? "log-file"
    environment := ← environment (environmentName w p)
    configFile := p.path? "config" }

/-- Loads the configuration and sets the logger up. -/
def prepare (request : Log.SetupRequest) : Action Config.Settings := do
  let r ← get
  let listener := if request.verbose then .someone r.world.libraries.checkMarkup else .nobody
  let loaded := Config.load r.world { request.loadRequest with listener }
  set { r with world := { r.world with vars := loaded.vars } }
  match loaded.result with
  | .error e => failLoad e
  | .ok settings =>
    let r ← get
    let done := r.logger.setup r.world request
    set { r with logger := done.logger, world := done.world, prints := r.prints ++ done.prints }
    match done.result with
    | .error e => failSetup e
    | .ok () =>
      let file := match request.configFile with
        | some p => p.toString
        | none => "None"
      report [⟨.debug, origin "cli",
        s!"er2code CLI started (environment: {request.environment}, config={file})"⟩]
      return settings

end Command
end Entigram
