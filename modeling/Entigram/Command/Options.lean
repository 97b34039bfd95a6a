/-!
# Options and arguments

How a list of words on the command line falls apart into options and arguments.

* A long option takes its value from behind an equals sign or from the next word, a short one from
  the rest of its word or from the next word.  Short options without values can share a word.
* The next word is taken as a value whatever it looks like.
* `--` ends the options.  Where options and arguments may not mix, so does the first argument.

The result lists options in the order in which they were given; of an option that was given more
than once the last counts.
-/

set_option autoImplicit false

namespace Entigram
namespace Command

/-- An option that a command knows. -/
structure OptionSpec where
  name : String
  /-- With two dashes, for instance `--config`. -/
  long : String
  /-- The letter after a single dash. -/
  short : Option Char := none
  takesValue : Bool := true
deriving Repr

/-- What is wrong with a command line. -/
inductive UsageError
  | unknownOption (word : String)
  | noValue (option : String)
  | needlessValue (option : String)
  | noCommand
  | unknownCommand (word : String)
  | noArgument (name : String)
  | extraArguments (words : List String)
  | badChoice (option word : String)
  | noSuchPath (path : String)
  | wrongKind (path : String)
  /-- A path holds the character that ends paths. -/
  | nullCharacter
  | invalidOverride
deriving Repr, DecidableEq

/-- The text of a usage error. -/
def UsageError.message : UsageError → String
  | unknownOption word => s!"No such option: {word}"
  | noValue option => s!"Option {option} requires an argument."
  | needlessValue option => s!"Option {option} does not take a value."
  | noCommand => "Missing command."
  | unknownCommand word => s!"No such command '{word}'."
  | noArgument name => s!"Missing argument '{name}'."
  | extraArguments words => "Got unexpected extra arguments (" ++ " ".intercalate words ++ ")"
  | badChoice option word => s!"Invalid value for {option}: '{word}' is not one of the choices."
  | noSuchPath path => s!"Path '{path}' does not exist or cannot be opened."
  | wrongKind path => s!"Path '{path}' is not of the kind that is wanted."
  | nullCharacter => "embedded null byte"
  | invalidOverride => "The options do not make valid settings."

/-- A command line, taken apart. -/
structure Parsed where
  /-- Options with their values, in order; the value of one that takes none is empty. -/
  options : List (String × String) := []
  arguments : List String := []
deriving Repr

namespace Parsed

/-- The value of an option. -/
def value? (p : Parsed) (name : String) : Option String := p.options.reverse.lookup name

/-- Was the option given? -/
def has (p : Parsed) (name : String) : Bool := p.options.any fun o => o.1 = name

/-- The names of the options that were given, in the order in which they first were. -/
def optionNames (p : Parsed) : List String := (p.options.map (·.1)).eraseDups

/-- Checks the options that were given, in the order in which they first were. -/
def checkOptions (p : Parsed) (check : String → String → Except UsageError Unit) :
    Except UsageError Unit :=
  p.optionNames.forM fun name => (p.value? name).forM (check name)

/-- The same with more options in front. -/
def withOptions (p : Parsed) (options : List (String × String)) : Parsed :=
  { p with options := options ++ p.options }

/-- The same with an argument more in front. -/
def withArgument (p : Parsed) (word : String) : Parsed :=
  { p with arguments := word :: p.arguments }

end Parsed

/-- What a word says: options with values, and perhaps one whose value is the next word. -/
structure Word where
  options : List (String × String) := []
  pending : Option String := none

/-- Short options that share a word. -/
def shortOptions (specs : List OptionSpec) : List Char → Except UsageError Word
  | [] => .ok {}
  | c :: cs =>
    match specs.find? fun s => s.short = some c with
    | none => .error (.unknownOption (String.ofList ['-', c]))
    | some spec =>
      if spec.takesValue then
        if cs.isEmpty then .ok { pending := some spec.name }
        else .ok { options := [(spec.name, String.ofList cs)] }
      else (shortOptions specs cs).map fun w =>
        { w with options := (spec.name, "") :: w.options }

/-- What a word that begins with a dash says. -/
def readWord (specs : List OptionSpec) (word : String) : Except UsageError Word :=
  let cs := word.toList
  let name := String.ofList (cs.takeWhile (· ≠ '='))
  match specs.find? fun s => s.long = name with
  | some spec =>
    match cs.dropWhile (· ≠ '='), spec.takesValue with
    | _ :: value, true => .ok { options := [(spec.name, String.ofList value)] }
    | _ :: _, false => .error (.needlessValue spec.long)
    | [], true => .ok { pending := some spec.name }
    | [], false => .ok { options := [(spec.name, "")] }
  | none =>
    if ['-', '-'].isPrefixOf cs then .error (.unknownOption name) else shortOptions specs cs.tail

/-- Does the word ask for options? -/
def looksLikeOption (word : String) : Bool :=
  match word.toList with
  | '-' :: _ :: _ => true
  | _ => false

/-- Takes a command line apart.  `mixed` says whether options may follow arguments. -/
def parse (specs : List OptionSpec) (mixed : Bool) : List String → Except UsageError Parsed
  | [] => .ok {}
  | word :: rest => do
    if word = "--" then return { arguments := rest }
    if looksLikeOption word then
      let w ← readWord specs word
      match w.pending with
      | none => return (← parse specs mixed rest).withOptions w.options
      | some name =>
        match rest with
        | [] => throw (.noValue name)
        | value :: rest' =>
          return (← parse specs mixed rest').withOptions (w.options ++ [(name, value)])
    else if mixed then return (← parse specs mixed rest).withArgument word
    else return { arguments := word :: rest }

end Command
end Entigram
