import Entigram.Yaml.Scalar

/-!
# Tokens of configuration files

A file falls into tokens: signs, scalars, and the beginnings and ends of collections that its layout
shows.  A collection of lines begins where its first line is indented more than the lines around it,
and ends before the first line that is indented less.

A key needs no sign before it, so what a token is shows only when a colon follows.  The lexer keeps
the places where a key may have begun (`KeyPlace`), and does not hand out a token that may still
turn out to be a key.  A key stands on one line and has at most 1024 characters up to its colon.

Tokens are read one by one (`Lexer.peek`), so a token that is out of place is found before what is
wrong with the text behind it.

Between brackets layout has no meaning.  Anchors, tags, directives and scalars of indented lines are
no part of configuration files.
-/

set_option autoImplicit false

namespace Entigram
namespace Yaml

/-- A token. -/
inductive Token
  /-- The end of the text. -/
  | finish
  | documentStart
  | documentEnd
  | scalar (text : String) (isPlain : Bool)
  /-- The beginning of a list of lines. -/
  | listStart
  /-- The beginning of a mapping of lines. -/
  | mapStart
  /-- The end of a collection of lines. -/
  | blockEnd
  /-- The dash before an item. -/
  | dash
  | openList
  | closeList
  | openMap
  | closeMap
  | comma
  /-- The beginning of a key. -/
  | key
  /-- The colon before a value. -/
  | value
deriving Repr, DecidableEq

/-- A place where a key may have begun. -/
structure KeyPlace where
  /-- How many brackets were open. -/
  level : Nat
  /-- The number of the token that is the key or begins it. -/
  token : Nat
  /-- Must it be a key?  It must if the line belongs to a mapping. -/
  required : Bool
  index : Nat
  line : Nat
  column : Nat
deriving Repr

/-- The most characters from the beginning of a key to its colon. -/
def longestKey : Nat := 1024

/-- How far a text is read. -/
structure Lexer where
  cursor : Cursor
  /-- The number of characters of the whole text. -/
  size : Nat
  /-- What stands for an escaped half of a character, if anything does. -/
  half : Option Char
  /-- The tokens that were read and not handed out. -/
  waiting : List Token := []
  /-- The number of tokens that were handed out. -/
  taken : Nat := 0
  /-- Is the end of the text among the tokens? -/
  finished : Bool := false
  /-- How many brackets are open. -/
  level : Nat := 0
  /-- The column of the present collection of lines. -/
  indent : Int := -1
  /-- The columns of the collections around it. -/
  outer : List Int := []
  /-- Can a key begin here? -/
  takesKey : Bool := true
  keys : List KeyPlace := []
deriving Repr

namespace Lexer

/-- The lexer at the beginning of a text. -/
def start (half : Option Char) (text : List Char) : Lexer where
  cursor := { rest := text }
  size := text.length
  half

/-! ## Tokens and indentation -/

/-- Adds a token at the end. -/
def push (l : Lexer) (t : Token) : Lexer := { l with waiting := l.waiting ++ [t] }

/-- Adds a token and passes the characters that it is made up of. -/
def pushSign (length : Nat) (t : Token) (l : Lexer) : Lexer :=
  { l.push t with cursor := l.cursor.skip length }

/-- Adds a token before one that waits. -/
def insert (l : Lexer) (token : Nat) (t : Token) : Lexer :=
  let n := token - l.taken
  { l with waiting := l.waiting.take n ++ t :: l.waiting.drop n }

/-- Ends collections of lines, innermost first, while they are indented more than a column. -/
def unwindFrom (column : Int) : List Int → Lexer → Lexer
  | outer :: rest, l =>
    if column < l.indent then
      unwindFrom column rest { l.push .blockEnd with indent := outer, outer := rest }
    else l
  | [], l => l

/-- Ends collections of lines that are indented more than a column; between brackets there are
none. -/
def unwind (l : Lexer) (column : Int) : Lexer :=
  if l.level = 0 then unwindFrom column l.outer l else l

/-- Begins a collection of lines at a column, unless it goes on there. -/
def indentTo (column : Nat) (begin : Lexer → Lexer) (l : Lexer) : Lexer :=
  if l.level = 0 && l.indent < (column : Int) then
    begin { l with indent := column, outer := l.indent :: l.outer }
  else l

/-! ## Keys -/

/-- Forgets places of keys.  A place that must be a key cannot be forgotten. -/
def forget (p : KeyPlace → Bool) (l : Lexer) : Except Fault Lexer :=
  if l.keys.any fun k => p k && k.required then .error .token
  else .ok { l with keys := l.keys.filter fun k => !p k }

/-- Forgets the places that are too far back for a key. -/
def forgetStale (l : Lexer) : Except Fault Lexer :=
  l.forget fun k => k.line ≠ l.cursor.line || longestKey < l.cursor.index - k.index

/-- Forgets the place between the present brackets. -/
def forgetHere (l : Lexer) : Except Fault Lexer := l.forget fun k => k.level = l.level

/-- Notes that a key may begin here. -/
def noteKey (l : Lexer) : Except Fault Lexer :=
  if l.takesKey then do
    let l ← l.forgetHere
    let c := l.cursor
    return { l with keys :=
      { level := l.level, token := l.taken + l.waiting.length
        required := l.level = 0 && l.indent = (c.column : Int)
        index := c.index, line := c.line, column := c.column } :: l.keys }
  else .ok l

/-! ## Reading tokens -/

/-- Passes spaces, comments and line breaks. -/
def skipGap : Nat → Lexer → Lexer
  | 0, l => l
  | n + 1, l =>
    let c := l.cursor.skipWhile (· = ' ')
    let c := if c.peek = some '#' then c.skipWhile fun ch => !isBreak ch else c
    match c.break? with
    | some (_, c) => skipGap n { l with cursor := c, takesKey := l.takesKey || l.level = 0 }
    | none => { l with cursor := c }

/-- Passes everything before the next token, with the mark that a file may begin with. -/
def skipToToken (l : Lexer) : Lexer :=
  let c := l.cursor
  let c := if c.index = 0 && c.peek = some mark then c.step else c
  skipGap (l.size + 1) { l with cursor := c }

/-- Reads the end of the text. -/
def readFinish (l : Lexer) : Except Fault Lexer := do
  let l ← (l.unwind (-1)).forgetHere
  return { l.push .finish with takesKey := false, keys := [], finished := true }

/-- Reads a line that separates documents. -/
def readSeparator (t : Token) (l : Lexer) : Except Fault Lexer := do
  let l ← (l.unwind (-1)).forgetHere
  return { l with takesKey := false }.pushSign 3 t

/-- Reads a bracket that begins a collection. -/
def readOpening (t : Token) (l : Lexer) : Except Fault Lexer := do
  let l ← l.noteKey
  return { l with level := l.level + 1, takesKey := true }.pushSign 1 t

/-- Reads a bracket that ends a collection. -/
def readClosing (t : Token) (l : Lexer) : Except Fault Lexer := do
  let l ← l.forgetHere
  return { l with level := l.level - 1, takesKey := false }.pushSign 1 t

/-- Reads a comma. -/
def readComma (l : Lexer) : Except Fault Lexer := do
  let l ← l.forgetHere
  return { l with takesKey := true }.pushSign 1 .comma

/-- Reads the dash before an item. -/
def readDash (l : Lexer) : Except Fault Lexer := do
  if l.level = 0 && !l.takesKey then throw .token
  let l ← (l.indentTo l.cursor.column (·.push .listStart)).forgetHere
  return { l with takesKey := true }.pushSign 1 .dash

/-- Reads the sign before a key. -/
def readKey (l : Lexer) : Except Fault Lexer := do
  if l.level = 0 && !l.takesKey then throw .token
  let l ← (l.indentTo l.cursor.column (·.push .mapStart)).forgetHere
  return { l with takesKey := l.level = 0 }.pushSign 1 .key

/-- Reads a colon.  What stands before it on the line becomes a key. -/
def readValue (l : Lexer) : Except Fault Lexer :=
  match l.keys.find? fun k => k.level = l.level with
  | some k =>
    let l := { l with keys := l.keys.filter fun k => k.level ≠ l.level }.insert k.token .key
    let l := l.indentTo k.column (·.insert k.token .mapStart)
    .ok ({ l with takesKey := false }.pushSign 1 .value)
  | none => do
    if l.level = 0 && !l.takesKey then throw .token
    let l ← (l.indentTo l.cursor.column (·.push .mapStart)).forgetHere
    return { l with takesKey := l.level = 0 }.pushSign 1 .value

/-- Reads a scalar in quotes. -/
def readQuoted (quote : Char) (l : Lexer) : Except Fault Lexer := do
  let l ← l.noteKey
  let (text, cursor) ← quoted l.half quote (l.size + 1) l.cursor.step
  return { l.push (.scalar (String.ofList text) false) with cursor, takesKey := false }

/-- Reads a plain scalar. -/
def readPlain (l : Lexer) : Except Fault Lexer := do
  let l ← l.noteKey
  let s := plainAt (l.level ≠ 0) (l.indent + 1) (l.size + 1) l.cursor
  return { l.push (.scalar (String.ofList s.text) true) with
    cursor := s.cursor, takesKey := s.breaksLine }

/-- Characters that begin no plain scalar. -/
def beginsNoPlain : List Char :=
  ['-', '?', ':', ',', '[', ']', '{', '}', '#', '&', '*', '!', '|', '>', '\'', '"', '%', '@',
    Char.ofNat 0x60]

/-- Does a plain scalar begin with this character, before that one? -/
def beginsPlain (inFlow : Bool) (c : Char) (next : Option Char) : Bool :=
  (!isBlank c && !isBreak c && !beginsNoPlain.contains c)
    || (!endsWord next && (c = '-' || (!inFlow && (c = '?' || c = ':'))))

/-- Reads a token that begins with a character. -/
def readSign (c : Char) (l : Lexer) : Except Fault Lexer :=
  let next := l.cursor.rest[1]?
  let inFlow := l.level ≠ 0
  if c = '[' then l.readOpening .openList
  else if c = '{' then l.readOpening .openMap
  else if c = ']' then l.readClosing .closeList
  else if c = '}' then l.readClosing .closeMap
  else if c = ',' then l.readComma
  else if c = '-' && endsWord next then l.readDash
  else if c = '?' && (inFlow || endsWord next) then l.readKey
  else if c = ':' && (inFlow || endsWord next) then l.readValue
  else if c = '"' || c = '\'' then l.readQuoted c
  else if beginsPlain inFlow c next then l.readPlain
  else .error .token

/-- Reads a token, with the ends of collections before it. -/
def read (l : Lexer) : Except Fault Lexer := do
  let l ← l.skipToToken.forgetStale
  let l := l.unwind l.cursor.column
  match l.cursor.peek with
  | none => l.readFinish
  | some c =>
    if l.cursor.column = 0 && l.cursor.atMark '-' then l.readSeparator .documentStart
    else if l.cursor.column = 0 && l.cursor.atMark '.' then l.readSeparator .documentEnd
    else l.readSign c

/-! ## Handing tokens out -/

/-- Reads tokens until the first that waits is certain.  Every token takes a character at least, so
there is fuel enough in the length of the text. -/
def fill : Nat → Lexer → Except Fault Lexer
  | 0, l => .ok l
  | n + 1, l => do
    if l.finished then return l
    else if l.waiting.isEmpty then fill n (← l.read)
    else
      let l ← l.forgetStale
      if l.keys.any fun k => k.token = l.taken then fill n (← l.read) else return l

/-- The next token, and the lexer that is certain of it. -/
def peek (l : Lexer) : Except Fault (Token × Lexer) := do
  let l ← fill (l.size + 2) l
  return (l.waiting.head?.getD .finish, l)

/-- The lexer behind the next token. -/
def drop (l : Lexer) : Lexer := { l with waiting := l.waiting.tail, taken := l.taken + 1 }

end Lexer

end Yaml
end Entigram
