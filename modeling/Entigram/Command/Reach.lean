import Entigram.Command.Generate
import Entigram.Command.Inspect
import Entigram.Command.Startup

/-!
# What a run looks at

A run is a function of the files that it sees, so whoever starts one has to know which files those
are.  They are found in two steps: first what the words name and where a configuration can be
(`sourcePaths`), and then, with those files at hand, where the log file and the sources go
(`targetPaths`).
-/

set_option autoImplicit false

namespace Entigram
namespace Command

/-- The command line: what stands in front of the command's name, and behind it. -/
def parseBoth (words : List String) : Parsed × Parsed :=
  match parse globalOptions false words with
  | .error _ => ({}, {})
  | .ok front =>
    match parse (generateOptions ++ inspectOptions) true (front.arguments.drop 1) with
    | .error _ => (front, {})
    | .ok behind => (front, behind)

/-- The paths that options and arguments name. -/
def namedPaths (words : List String) : List Path :=
  let (front, behind) := parseBoth words
  (front.options.map (·.2) ++ behind.options.map (·.2) ++ behind.arguments).map Path.ofString

/-- The paths that a configuration can come from. -/
def configPaths (w : World) (words : List String) : List Path :=
  let file := ((parseBoth words).1.value? "config").map Path.ofString
  (Config.homeDirectory? w).toList.flatMap Config.basePaths ++ environments.flatMap fun e =>
    Config.variableFiles e.2 ++ Config.environmentPaths file e.2

/-- Everything that a run can read. -/
def sourcePaths (w : World) (words : List String) : List Path :=
  namedPaths words ++ configPaths w words

/-- Everything that a run can write, in a world with everything that it can read.  `logPaths` says
where the log file of a path can be. -/
def targetPaths (logPaths : Path → List Path) (w : World) (words : List String) : List Path :=
  let (front, behind) := parseBoth words
  match setupRequest w front with
  | .error _ => []
  | .ok request =>
    match (Config.load w request.loadRequest).result with
    | .error _ => []
    | .ok settings =>
      let log := match settings.general.logging.file.path? w.address request.environment w.now with
        | .ok path => path.toList ++ request.logFile.toList
        | .error _ => []
      let dirs := (behind.path? "output-dir").toList
        ++ settings.codegen.outputDir.toList
      let names := [settings.codegen.entitiesFilename, settings.codegen.contextFilename]
      log.flatMap logPaths
        ++ dirs.flatMap fun dir => names.map fun n => dir.join (Path.ofString n)

end Command
end Entigram
