import Entigram.Config.Issue
import Entigram.Config.Settings
import Entigram.Text.WordChar

/-!
# From a configuration to settings

Checking a configuration finds all its issues, not only the first, and lists them in the order of
the settings.  `Checked` is the result: settings, or issues, or an output directory that is not a
path at all, which ends the check on the spot whatever else is wrong.

Each setting has its own check of one value (`text`, `flag`, `rotation`, …); `field` finds the value
under a key, with a default for a key that is not there; and the sections put their fields together.
Unknown keys do not count.
-/

set_option autoImplicit false

namespace Entigram
namespace Config

open Text

/-! ## Results of a check -/

/-- The result of a check. -/
inductive Checked (α : Type)
  | ok (a : α)
  | issues (found : List Issue)
  /-- The output directory is neither text nor empty. -/
  | notAPath
deriving Repr, DecidableEq

namespace Checked

/-- A change of what was accepted. -/
def map {α β : Type} (f : α → β) : Checked α → Checked β
  | ok a => ok (f a)
  | issues i => issues i
  | notAPath => notAPath

/-- Two checks, one after the other: the issues of both are kept. -/
def seq {α β : Type} : Checked (α → β) → Checked α → Checked β
  | ok f, x => x.map f
  | notAPath, _ => notAPath
  | issues _, notAPath => notAPath
  | issues i, issues j => issues (i ++ j)
  | issues i, ok _ => issues i

instance : Functor Checked := ⟨map, fun a x => x.map fun _ => a⟩
instance : Applicative Checked where
  pure := ok
  seq f x := seq f (x ())

/-- A check that goes on with what another accepted. -/
def andThen {α β : Type} (x : Checked α) (f : α → Checked β) : Checked β :=
  match x with
  | ok a => f a
  | issues i => issues i
  | notAPath => notAPath

/-- A single issue, at the place of the check itself. -/
def wrong {α : Type} (cause : Cause) : Checked α := issues [⟨[], cause⟩]

/-- A rejected value. -/
def reject {α : Type} (why : Rejection) : Checked α := wrong (.rejected why)

/-- The same check one level further down. -/
def under {α : Type} (key : String) : Checked α → Checked α
  | issues i => issues (i.map fun issue => { issue with place := key :: issue.place })
  | x => x

end Checked

open Checked

/-! ## Values -/

/-- A text. -/
def text : Json → Checked String
  | .str s => ok s
  | _ => wrong .notText

/-- The words for yes, in lower case. -/
def yesWords : List String := ["true", "t", "yes", "y", "on", "1"]

/-- The words for no, in lower case. -/
def noWords : List String := ["false", "f", "no", "n", "off", "0"]

/-- One for yes and zero for no.  Other integers could have been meant as either, as long as they
fit into 64 bits; anything else is no such number.  `least` is the least that fits. -/
def numberFlag (n : Option Int) (least : Int) : Checked Bool :=
  match n with
  | some 1 => ok true
  | some 0 => ok false
  | some n => if least ≤ n ∧ n ≤ Int64.maxValue.toInt then wrong .unreadableFlag else wrong .notFlag
  | none => wrong .notFlag

/-- A yes or no: a truth value, zero or one, or a word for either. -/
def flag : Json → Checked Bool
  | .bool b => ok b
  | .int n => numberFlag (some n) Int64.minValue.toInt
  | .real x => numberFlag x.toInt? (Int64.minValue.toInt + 1)
  | .str s =>
    let word := s.map Char.toLower
    if yesWords.contains word then ok true
    else if noWords.contains word then ok false
    else wrong .unreadableFlag
  | _ => wrong .notFlag

/-- The level that a setting names, in any case. -/
def level? (s : String) : Option Log.Level :=
  settableLevels.find? fun l => l.name = upper s

/-- The level from which records are shown. -/
def logLevel (v : Json) : Checked Log.Level :=
  (text v).andThen fun s =>
    match level? s with
    | some l => ok l
    | none => reject .logLevel

/-! ## Levels of modules -/

/-- The texts of a dictionary. -/
def texts : Json.Fields → Checked (List (String × String))
  | [] => ok []
  | (k, v) :: rest => (fun s more => (k, s) :: more) <$> (text v).under k <*> texts rest

/-- The levels that texts name. -/
def levels : List (String × String) → Checked (List (String × Log.Level))
  | [] => ok []
  | (component, s) :: rest =>
    match level? s with
    | some l => (levels rest).map ((component, l) :: ·)
    | none => reject (.moduleLevel s component)

/-- Levels for parts of the program. -/
def modules : Json → Checked (List (String × Log.Level))
  | .obj fs => (texts fs).andThen levels
  | _ => wrong .notDictionary

/-! ## Files -/

/-- The placeholders in a template, braces included: whatever stands between a brace and the next
closing brace.  `name?` holds what was read since the brace, last character first. -/
def placeholdersFrom : Option (List Char) → List Char → List (List Char)
  | _, [] => []
  | none, c :: cs => placeholdersFrom (if c = '\x7b' then some [] else none) cs
  | some name, c :: cs =>
    if c = '\x7d' then
      let rest := placeholdersFrom none cs
      if name.isEmpty then rest else ('\x7b' :: name.reverse ++ ['\x7d']) :: rest
    else placeholdersFrom (some (c :: name)) cs

/-- The placeholders in a template. -/
def placeholders (template : String) : List String :=
  (placeholdersFrom none template.toList).map String.ofList

/-- The names that a path template can mention. -/
def placeholderNames : List String := ["environment", "date", "datetime"]

/-- The placeholders that a path template can hold. -/
def knownPlaceholders : List String := placeholderNames.map fun n => "\x7b" ++ n ++ "\x7d"

/-- The template of a log file's path: only known placeholders. -/
def pathTemplate (v : Json) : Checked String :=
  (text v).andThen fun s =>
    let unknown := (placeholders s).filter fun p => !knownPlaceholders.contains p
    if unknown.isEmpty then ok s
    else reject (.placeholders (unknown.eraseDups.mergeSort fun a b => decide (a ≤ b)))

/-- The units of a rotation, in folded form. -/
def rotationUnits : List String := ["mb", "gb", "kb", "day", "days", "hour", "hours"]

/-- A text without one line feed at its end. -/
def withoutFinalBreak (cs : List Char) : List Char :=
  if cs.getLast? = some '\n' then cs.dropLast else cs

/-- A number and a unit in any case, with white space between them or none. -/
def isRotation (cs : List Char) : Bool :=
  let rest := cs.dropWhile isDecimalDigit
  let unit := withoutFinalBreak (rest.dropWhile isBlank)
  !(cs.takeWhile isDecimalDigit).isEmpty
    && rotationUnits.contains (String.ofList (foldChars unit))

/-- When a log file is put aside. -/
def rotation (v : Json) : Checked String :=
  (text v).andThen fun s => if isRotation s.toList then ok s else reject .rotation

/-- How much the console shows. -/
def consoleFormat (v : Json) : Checked ConsoleFormat :=
  (text v).andThen fun s =>
    if s = ConsoleFormat.simple.name then ok .simple
    else if s = ConsoleFormat.detailed.name then ok .detailed
    else reject .format

/-! ## Names in sources -/

/-- A letter of ASCII or the low line. -/
def startsIdentifier (c : Char) : Bool := c.isAlpha || c = '_'

/-- A letter or digit of ASCII or the low line. -/
def continuesIdentifier (c : Char) : Bool := c.isAlphanum || c = '_'

/-- A non-empty word of ASCII letters, digits and low lines that does not begin with a digit. -/
def isIdentifier : List Char → Bool
  | [] => false
  | c :: cs => startsIdentifier c && cs.all continuesIdentifier

/-- What is accepted as an identifier: a line feed at the end does not count. -/
def acceptsIdentifier (cs : List Char) : Bool := isIdentifier (withoutFinalBreak cs)

/-- The name of the context class. -/
def contextName (v : Json) : Checked String :=
  (text v).andThen fun s =>
    if acceptsIdentifier s.toList then ok s else reject (.contextName s)

/-- The namespace: none, or identifiers with points between them.  The empty text is none. -/
def declaredNamespace : Json → Checked (Option String)
  | .null => ok none
  | v =>
    (text v).andThen fun s =>
      if s = "" then ok none
      else if (splitWhere (· = '.') s.toList).all acceptsIdentifier then ok (some s)
      else reject (.declaredNamespace s)

/-- The output language. -/
def target (v : Json) : Checked Target :=
  (text v).andThen fun s =>
    match Target.ofName? s with
    | some t => ok t
    | none => reject .target

/-- Is the value empty, zero or false? -/
def isEmptyValue : Json → Bool
  | .null => true
  | .bool b => !b
  | .int n => n = 0
  | .real x => x.isZero
  | .str s => s = ""
  | .arr items => items.isEmpty
  | .obj fields => fields.isEmpty

/-- The output directory: none for an empty value of any type, and otherwise a text. -/
def outputDir (v : Json) : Checked (Option Path) :=
  if isEmptyValue v then ok none
  else match v with
    | .str s => ok (some (Path.ofString s))
    | _ => notAPath

/-! ## Sections -/

/-- The value under a key, or the default if the key is not there. -/
def field {α : Type} (fs : Json.Fields) (key : String) (default : α) (check : Json → Checked α) :
    Checked α :=
  match Json.get? key fs with
  | some v => (check v).under key
  | none => ok default

/-- The fields of a group of settings. -/
def group {α : Type} (name : String) (check : Json.Fields → Checked α) : Json → Checked α
  | .obj fs => check fs
  | _ => wrong (.notSection name)

/-- File logging. -/
def fileLogging (fs : Json.Fields) : Checked FileLogging :=
  FileLogging.mk <$> field fs "enabled" (FileLogging.enabled {}) flag
    <*> field fs "path" (FileLogging.path {}) pathTemplate
    <*> field fs "rotation" (FileLogging.rotation {}) rotation
    <*> field fs "retention" (FileLogging.retention {}) text
    <*> field fs "compression" (FileLogging.compression {}) text

/-- Console logging. -/
def consoleLogging (fs : Json.Fields) : Checked ConsoleLogging :=
  ConsoleLogging.mk <$> field fs "format" (ConsoleLogging.format {}) consoleFormat
    <*> field fs "show_time" (ConsoleLogging.showTime {}) flag
    <*> field fs "show_level" (ConsoleLogging.showLevel {}) flag
    <*> field fs "show_path" (ConsoleLogging.showPath {}) flag

/-- Logging. -/
def logging (fs : Json.Fields) : Checked Logging :=
  Logging.mk <$> field fs "file" {} (group "FileLoggingConfig" fileLogging)
    <*> field fs "console" {} (group "ConsoleLoggingConfig" consoleLogging)
    <*> field fs "modules" [] modules

/-- The general settings. -/
def general (fs : Json.Fields) : Checked General :=
  General.mk <$> field fs "log_level" (General.logLevel {}) logLevel
    <*> field fs "logging" {} (group "LoggingConfig" logging)

/-- The settings for generating code. -/
def codegen (fs : Json.Fields) : Checked Codegen :=
  Codegen.mk <$> field fs "target" (Codegen.target {}) target
    <*> field fs "context_name" (Codegen.contextName {}) contextName
    <*> field fs "namespace" none declaredNamespace
    <*> field fs "output_dir" none outputDir
    <*> field fs "entities_filename" (Codegen.entitiesFilename {}) text
    <*> field fs "context_filename" (Codegen.contextFilename {}) text

/-- The key of the general settings: a second spelling counts where the first is missing. -/
def generalKey (fs : Json.Fields) : String :=
  if (Json.get? "global" fs).isSome then "global" else "global_"

/-- All settings. -/
def settings (fs : Json.Fields) : Checked Settings :=
  Settings.mk <$> field fs (generalKey fs) {} (group "GlobalConfig" general)
    <*> field fs "codegen" {} (group "CodegenConfig" codegen)

/-- The settings for generating code with some of their fields replaced. -/
def Codegen.override (c : Codegen) (fields : Json.Fields) : Checked Codegen :=
  codegen (fields.foldl (fun fs f => Json.put f.1 f.2 fs) c.fields)

end Config
end Entigram
