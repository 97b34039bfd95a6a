import Entigram.Libraries
import Entigram.Text.Blank
import Entigram.Text.Encoding
import Entigram.Text.Search

/-!
# Files with variables

A file with variables has a line for every variable: a name, an equals sign and a value.  The word
`export` may stand before the name, a comment behind the value, and the value in quotes, where it
can hold line breaks and escapes.  A name alone sets nothing.

Reading goes from assignment to assignment (`assignments`).  Where one cannot be read, the rest of
the line is passed.

A value can mention other variables, as `${NAME}` or, with a text for the case that there is none,
as `${NAME:-text}`.  What the surroundings have counts first, then what the file says above.  So
the values depend on the surroundings, but the names do not (`map_fst_variablesIn`).
-/

set_option autoImplicit false

namespace Entigram
namespace VariableFile

open Text

/-! ## Assignments -/

/-- An assignment in a file: a name, and a value if there is an equals sign. -/
abbrev Assignment := String × Option String

/-- A step of reading: what it finds, or what was left of the text when it stopped. -/
abbrev Found := Except (List Char)

/-- Is it a blank within a line? -/
def isGap (c : Char) : Bool := isBlank c && c ≠ '\n'

/-- The characters before the first quote that has no backslash before it, and what follows the
quote.  `escaped` says whether a backslash comes before the text. -/
def toQuote? (quote : Char) (escaped : Bool) : List Char → Option (List Char × List Char)
  | [] => none
  | c :: cs =>
    if c = quote && !escaped then some ([], cs)
    else (toQuote? quote (c = '\\') cs).map fun (text, rest) => (c :: text, rest)

/-- The characters before the last quote, and what follows the quote. -/
def toLastQuote? (quote : Char) (cs : List Char) : Option (List Char × List Char) :=
  match cs.reverse.dropWhile (· ≠ quote) with
  | [] => none
  | _ :: text => some (text.reverse, (cs.reverse.takeWhile (· ≠ quote)).reverse)

/-- What stands between quotes.  If all quotes behind the first are escaped, the last one ends
it. -/
def inQuotes? (quote : Char) (cs : List Char) : Option (List Char × List Char) :=
  (toQuote? quote false cs).or (toLastQuote? quote cs)

/-- Replaces escapes by what they stand for. -/
def unescape (stands : Char → Option Char) : List Char → List Char
  | '\\' :: c :: cs =>
    match stands c with
    | some d => d :: unescape stands cs
    | none => '\\' :: unescape stands (c :: cs)
  | c :: cs => c :: unescape stands cs
  | [] => []

/-- What a letter behind a backslash stands for, between quotes of a kind. -/
def escaped? (quote c : Char) : Option Char :=
  if c = '\\' || c = '\'' then some c
  else if quote = '\'' then none
  else ([('"', 0x22), ('a', 0x07), ('b', 0x08), ('f', 0x0C), ('n', 0x0A), ('r', 0x0D), ('t', 0x09),
    ('v', 0x0B)].lookup c).map Char.ofNat

/-- A line without the comment behind a blank. -/
def withoutComment : List Char → List Char
  | [] => []
  | c :: cs =>
    if isBlank c && (cs.dropWhile isBlank).head? = some '#' then [] else c :: withoutComment cs

/-- Passes the word `export` and the blanks behind it. -/
def skipExport (cs : List Char) : List Char :=
  let word := "export".toList
  let rest := cs.drop word.length
  if word.isPrefixOf cs && rest.head?.any isGap then rest.dropWhile isGap else cs

/-- Can the character stand in a name without quotes? -/
def inName (c : Char) : Bool := c ≠ '=' && c ≠ '#' && !isBlank c

/-- The name of a variable; none where a comment begins. -/
def name (cs : List Char) : Found (Option String × List Char) :=
  match cs with
  | '#' :: _ => .ok (none, cs)
  | '\'' :: rest =>
    let text := rest.takeWhile (· ≠ '\'')
    match rest.drop text.length with
    | _ :: rest => if text.isEmpty then .error cs else .ok (some (String.ofList text), rest)
    | [] => .error cs
  | _ =>
    let text := cs.takeWhile inName
    if text.isEmpty then .error cs else .ok (some (String.ofList text), cs.drop text.length)

/-- A value in quotes. -/
def quotedValue (quote : Char) (cs rest : List Char) : Found (String × List Char) :=
  match inQuotes? quote rest with
  | some (text, rest) => .ok (String.ofList (unescape (escaped? quote) text), rest)
  | none => .error cs

/-- The value of a variable. -/
def value (cs : List Char) : Found (String × List Char) :=
  match cs with
  | '\'' :: rest => quotedValue '\'' cs rest
  | '"' :: rest => quotedValue '"' cs rest
  | _ =>
    let line := cs.takeWhile (· ≠ '\n')
    .ok (String.ofList (trimEndWhile isBlank (withoutComment line)), cs.drop line.length)

/-- The value behind an equals sign.  A comment behind blanks leaves it empty. -/
def valueBehind (cs : List Char) : Found (String × List Char) :=
  match cs.head?.any isGap, cs.dropWhile isGap with
  | true, '#' :: rest => .ok ("", '#' :: rest)
  | _, rest => value rest

/-- Passes the end of a line, with a comment before it. -/
def lineEnd (cs : List Char) : Found (List Char) :=
  let behind := match cs.dropWhile isGap with
    | '#' :: rest => rest.dropWhile (· ≠ '\n')
    | _ => cs
  match behind.dropWhile isGap with
  | [] => .ok []
  | c :: rest => if c = '\n' then .ok rest else .error behind

/-- An assignment or a comment, up to the end of its line. -/
def assignment (cs : List Char) : Found (Option Assignment × List Char) := do
  let (name, rest) ← name (skipExport cs)
  let (value, rest) ← match rest.dropWhile isGap with
    | '=' :: rest => (valueBehind rest).map fun (v, rest) => (some v, rest)
    | rest => .ok (none, rest)
  let rest ← lineEnd rest
  return (name.map (·, value), rest)

/-- The assignments of a text, in order.  Each step takes a character at least, so as much fuel as
there are characters is enough. -/
def assignmentsFrom : Nat → List Char → List Assignment
  | 0, _ => []
  | n + 1, cs =>
    match cs.dropWhile isBlank with
    | [] => []
    | c :: cs =>
      match assignment (c :: cs) with
      | .ok (a, rest) => a.toList ++ assignmentsFrom n rest
      | .error rest => assignmentsFrom n ((rest.dropWhile (· ≠ '\n')).drop 1)

/-- The mark that a file may begin with. -/
def mark : Char := Char.ofNat 0xFEFF

/-- The assignments of a text, without the mark that it may begin with. -/
def assignments (text : String) : List Assignment :=
  let cs := unifyLineEndsOf text.toList
  let cs := if cs.head? = some mark then cs.drop 1 else cs
  assignmentsFrom cs.length cs

/-! ## Values that mention variables -/

/-- The name in a reference, read behind its brace, with the text for the case that there is no such
variable, and what follows the reference. -/
def reference? (cs : List Char) : Option (String × String × List Char) :=
  let name := cs.takeWhile fun c => c ≠ '}' && c ≠ ':'
  match cs.drop name.length with
  | '}' :: rest => some (String.ofList name, "", rest)
  | ':' :: '-' :: rest =>
    let other := rest.takeWhile (· ≠ '}')
    match rest.drop other.length with
    | _ :: rest => some (String.ofList name, String.ofList other, rest)
    | [] => none
  | _ => none

/-- Replaces references.  Each step takes a character at least, so as much fuel as there are
characters is enough. -/
def expand (look : String → Option String) : Nat → List Char → List Char
  | n + 1, '$' :: '{' :: cs =>
    match reference? cs with
    | some (name, other, rest) => ((look name).getD other).toList ++ expand look n rest
    | none => '$' :: expand look n ('{' :: cs)
  | n + 1, c :: cs => c :: expand look n cs
  | _, cs => cs

/-- The value of a variable while a file is read: what the surroundings have counts first.  A name
without a value counts as empty. -/
def lookUp (vars : List (String × String)) (above : List Assignment) (name : String) :
    Option String :=
  (vars.lookup name).or ((above.lookup name).map (·.getD ""))

/-- Gives a variable a value, in its place if it is there. -/
def put {α : Type} (name : String) (value : α) : List (String × α) → List (String × α)
  | [] => [(name, value)]
  | (n, v) :: rest => if n = name then (name, value) :: rest else (n, v) :: put name value rest

/-- The assignments with references replaced, behind those above them.  Of two for one name the
later counts. -/
def resolve (vars : List (String × String)) (above : List Assignment) :
    List Assignment → List Assignment
  | [] => above
  | (name, value) :: rest =>
    let expanded := value.map fun v =>
      String.ofList (expand (lookUp vars above) v.length v.toList)
    resolve vars (put name expanded above) rest

/-- The variables that a text sets, in surroundings that have some already. -/
def variablesIn (vars : List (String × String)) (text : String) : List (String × String) :=
  (resolve vars [] (assignments text)).filterMap fun a => a.2.map fun v => (a.1, v)

/-! ## Which variables a text sets -/

/-- The names of some assignments, each with whether it has a value. -/
def valued (as : List Assignment) : List (String × Bool) := as.map fun a => (a.1, a.2.isSome)

theorem valued_put (name : String) (value : Option String) (as : List Assignment) :
    valued (put name value as) = put name value.isSome (valued as) := by
  induction as with
  | nil => rfl
  | cons a as ih =>
    obtain ⟨n, v⟩ := a
    by_cases hn : n = name
    · simp [valued, put, hn]
    · simpa [valued, put, hn] using ih

/-- Replacing references changes values, but there is a value where there was one. -/
theorem valued_resolve (vars vars' : List (String × String)) {above above' : List Assignment}
    (h : valued above = valued above') (as : List Assignment) :
    valued (resolve vars above as) = valued (resolve vars' above' as) := by
  induction as generalizing above above' with
  | nil => exact h
  | cons a as ih =>
    obtain ⟨name, value⟩ := a
    refine ih ?_
    simp only [valued_put, h, Option.isSome_map]

/-- The names with values are those that are told to have one. -/
theorem map_fst_values (as : List Assignment) :
    (as.filterMap fun a => a.2.map fun v => (a.1, v)).map Prod.fst =
      (valued as).filterMap fun a => if a.2 then some a.1 else none := by
  induction as with
  | nil => rfl
  | cons a as ih =>
    obtain ⟨name, value⟩ := a
    cases value <;> simpa [valued] using ih

/-- **The variables that a text sets** are the same whatever is set already. -/
theorem map_fst_variablesIn (vars vars' : List (String × String)) (text : String) :
    (variablesIn vars text).map Prod.fst = (variablesIn vars' text).map Prod.fst := by
  rw [variablesIn, variablesIn, map_fst_values, map_fst_values, valued_resolve vars vars' rfl]

/-- The reader of these files. -/
def reader : VariableReader where
  read := variablesIn
  map_fst_read := map_fst_variablesIn

end VariableFile
end Entigram
