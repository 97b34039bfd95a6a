import Entigram.Json.Basic
import Entigram.Log.Record
import Entigram.Path
import Entigram.Target

/-!
# Settings

What can be configured: how the program logs and how it generates code.  The types hold only
settings that are in order, so whatever has a value of type `Settings` need not check it again; how
settings are made from a configuration is the subject of `Entigram.Config.Check`.
-/

set_option autoImplicit false

namespace Entigram
namespace Config

/-- Logging to a file. -/
structure FileLogging where
  enabled : Bool := false
  /-- The file's path, with placeholders for the environment and the date. -/
  path : String := "logs/er2code_\x7benvironment\x7d_\x7bdate\x7d.log"
  rotation : String := "10 MB"
  retention : String := "30 days"
  compression : String := "gz"
deriving Repr, DecidableEq, Inhabited

/-- How much the console shows of a record. -/
inductive ConsoleFormat
  | simple
  | detailed
deriving Repr, DecidableEq, Inhabited

/-- The format's name. -/
def ConsoleFormat.name : ConsoleFormat → String
  | simple => "simple"
  | detailed => "detailed"

/-- Logging to the console. -/
structure ConsoleLogging where
  format : ConsoleFormat := .simple
  showTime : Bool := true
  showLevel : Bool := true
  showPath : Bool := false
deriving Repr, DecidableEq, Inhabited

/-- Logging. -/
structure Logging where
  file : FileLogging := {}
  console : ConsoleLogging := {}
  /-- Levels for the parts of the program whose names begin in a certain way. -/
  modules : List (String × Log.Level) := []
deriving Repr, DecidableEq, Inhabited

/-- The settings that are not about one activity. -/
structure General where
  logLevel : Log.Level := .info
  logging : Logging := {}
deriving Repr, DecidableEq, Inhabited

/-- The settings for generating code. -/
structure Codegen where
  target : Target := .csharp
  contextName : String := "AppDbContext"
  declaredNamespace : Option String := none
  /-- Where the sources go; they are printed if it is not set. -/
  outputDir : Option Path := none
  entitiesFilename : String := "Entities.cs"
  contextFilename : String := "AppDbContext.cs"
deriving Repr, DecidableEq, Inhabited

/-- All settings. -/
structure Settings where
  general : General := {}
  codegen : Codegen := {}
deriving Repr, DecidableEq, Inhabited

/-- The style of the sources that the settings ask for. -/
def Codegen.style (c : Codegen) : CSharp.Style where
  contextName := c.contextName
  declaredNamespace := c.declaredNamespace

/-! ## Settings as a configuration

A configuration that describes the settings: reading it gives them back. -/

/-- The fields of file logging. -/
def FileLogging.fields (f : FileLogging) : Json.Fields :=
  [("enabled", .bool f.enabled), ("path", .str f.path), ("rotation", .str f.rotation),
    ("retention", .str f.retention), ("compression", .str f.compression)]

/-- The fields of console logging. -/
def ConsoleLogging.fields (c : ConsoleLogging) : Json.Fields :=
  [("format", .str c.format.name), ("show_time", .bool c.showTime),
    ("show_level", .bool c.showLevel), ("show_path", .bool c.showPath)]

/-- The fields of logging. -/
def Logging.fields (l : Logging) : Json.Fields :=
  [("file", .obj l.file.fields), ("console", .obj l.console.fields),
    ("modules", .obj (l.modules.map fun m => (m.1, .str m.2.name)))]

/-- The fields of the general settings. -/
def General.fields (g : General) : Json.Fields :=
  [("log_level", .str g.logLevel.name), ("logging", .obj g.logging.fields)]

/-- The fields of the settings for generating code. -/
def Codegen.fields (c : Codegen) : Json.Fields :=
  [("target", .str c.target.name), ("context_name", .str c.contextName),
    ("namespace", (c.declaredNamespace.map Json.str).getD .null),
    ("output_dir", (c.outputDir.map fun p => Json.str p.toString).getD .null),
    ("entities_filename", .str c.entitiesFilename), ("context_filename", .str c.contextFilename)]

/-- The fields of all settings. -/
def Settings.fields (s : Settings) : Json.Fields :=
  [("global", .obj s.general.fields), ("codegen", .obj s.codegen.fields)]

end Config
end Entigram
