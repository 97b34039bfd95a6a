import Entigram.Command.Action
import Entigram.Text.Encoding

/-!
# Arguments of commands

What the words on the command line mean: options that end the run at once, paths that have to lead
somewhere, and the diagram that a command works on.

The options that were given are checked in their order.  The argument comes after them, and words
that are too many come last.
-/

set_option autoImplicit false

namespace Entigram
namespace Command

/-- The option that asks for help. -/
def helpOption : OptionSpec := { name := "help", long := "--help", takesValue := false }

/-- The program's version. -/
def version : String := "0.1.0"

/-- Options that end a run at once: the first of them counts. -/
def answerAtOnce (p : Parsed) : Action Unit :=
  match p.options.find? fun o => o.1 = "version" || o.1 = "help" with
  | some ("version", _) => do
    printLine s!"er2code, version {version}"
    stop 0
  | some _ => stop 0
  | none => pure ()

/-- Ends the run because there is no command of this name.  Words that look like options in a
command's place are read as options once more: they can still end the run at once, and `check` finds
what is wrong with them. -/
def noSuchCommand (specs : List OptionSpec) (check : Parsed → Except UsageError Unit)
    (name : String) (words : List String) : Action Unit := do
  let p ← orMisuse (parse specs false (name :: words))
  answerAtOnce p
  orMisuse (check p)
  misuse (.unknownCommand name)

/-- Does a path say that it means a directory, with a slash or a dot as its last part? -/
def meansDirectory (path : String) : Bool :=
  match path.toList.reverse with
  | '/' :: _ => true
  | '.' :: '/' :: _ => true
  | _ => false

/-- What a path on the command line leads to.  The empty path leads nowhere, and so do one that is
too long as it stands and one that cannot be followed; one that says that it means a directory does
not lead to a file. -/
def leadsTo (w : World) (path : String) : Except UsageError (Option Node) :=
  match w.disk.locate w.working (Path.ofString path) with
  | .error .nullCharacter => .error .nullCharacter
  | .error _ => .ok none
  | .ok place =>
    if path = "" || Disk.longestPath < path.utf8ByteSize then .ok none
    else .ok ((w.disk.at? place).filter fun node => !meansDirectory path || node = .directory)

/-- Fails unless the path leads to something. -/
def checkExists (w : World) (path : String) : Except UsageError Unit := do
  if (← leadsTo w path).isNone then throw (.noSuchPath path)

/-- Fails if the path leads to something of the wrong kind. -/
def checkKind (w : World) (isWrong : Node → Bool) (path : String) : Except UsageError Unit := do
  if (← leadsTo w path).any isWrong then throw (.wrongKind path)

/-- The text of the diagram that an argument names; `-` is the standard input. -/
def diagramText (w : World) (input : String) (path : String) : Except UsageError String :=
  if path = "-" then .ok (Text.unifyLineEnds input)
  else do
    match ← leadsTo w path with
    | some (.file content) => return Text.unifyLineEnds content
    | _ => throw (.noSuchPath path)

/-- Takes the words behind a command's name apart. -/
def commandLine (specs : List OptionSpec) (words : List String) : Action Parsed := do
  let p ← orMisuse (parse (specs ++ [helpOption]) true words)
  answerAtOnce p
  return p

/-- Fails if there are words left. -/
def checkNoMore : List String → Except UsageError Unit
  | [] => .ok ()
  | more => .error (.extraArguments more)

/-- The text of the diagram that the one argument of a command names. -/
def diagramArgument (w : World) (input : String) : List String → Except UsageError String
  | [] => .error (.noArgument "INPUT_FILE")
  | path :: more => do
    let text ← diagramText w input path
    checkNoMore more
    return text

/-- A command without arguments. -/
def noArguments (words : List String) : Action Unit := do
  let p ← commandLine [] words
  orMisuse (checkNoMore p.arguments)

/-- The path that an option names. -/
def Parsed.path? (p : Parsed) (name : String) : Option Path := (p.value? name).map Path.ofString

end Command
end Entigram
