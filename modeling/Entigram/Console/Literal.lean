import Entigram.Text.CharName
import Entigram.Text.Encoding
import Entigram.Text.WordChar

/-!
# Literals

The arguments of actions in markup are literals: numbers, texts, bytes, truth values, `None`, `...`,
and tuples, sets and dictionaries of literals.  Nothing is ever done with their values, so it is
enough to know whether a text is a literal (`isLiteral`).

A text falls into tokens first (`tokens?`).  Line breaks count only outside brackets, where the
first one ends the literal.  Then the tokens are read by the grammar (`Kind`):

* a number may have a sign, and a real number may stand before a sign and an imaginary one;
* texts in a row are one text, and so are bytes, but the two do not mix;
* elements of sets and keys of dictionaries hold no sets and dictionaries themselves.
-/

set_option autoImplicit false

namespace Entigram
namespace Console
namespace Literal

/-! ## Tokens -/

/-- A token of a literal. -/
inductive Token
  | number (imaginary : Bool)
  | string (bytes : Bool)
  | word (cs : List Char)
  /-- A plus or a minus. -/
  | sign
  | opening (c : Char)
  | closing (c : Char)
  | comma
  | colon
  | ellipsis
deriving Repr, DecidableEq

/-- Is it a hexadecimal digit? -/
def isHexDigit (c : Char) : Bool :=
  c.isDigit || ('a' ≤ c && c ≤ 'f') || ('A' ≤ c && c ≤ 'F')

/-- Do so many hexadecimal digits come first? -/
def startsWithHex (count : Nat) (cs : List Char) : Bool :=
  (cs.take count).length = count && (cs.take count).all isHexDigit

/-- Does the code of a character come first, in eight hexadecimal digits? -/
def startsWithCode (cs : List Char) : Bool :=
  startsWithHex 8 cs && (['0', '0', '0'].isPrefixOf cs || ['0', '0', '1', '0'].isPrefixOf cs)

/-- Does the name of a character come first, in braces? -/
def startsWithName (cs : List Char) : Bool :=
  match cs with
  | '{' :: rest => rest.contains '}' && Text.isCharName (rest.takeWhile (· ≠ '}'))
  | _ => false

/-- How the characters of a text are written. -/
structure StringForm where
  /-- Backslashes have no meaning. -/
  raw : Bool := false
  bytes : Bool := false
  quote : Char
  /-- Three quotes at either end; line breaks may stand between them. -/
  triple : Bool := false

namespace StringForm

/-- Can these characters stand behind a backslash? -/
def takesEscape (f : StringForm) (c : Char) (rest : List Char) : Bool :=
  if f.raw then true
  else match c with
    | 'x' => startsWithHex 2 rest
    | 'u' => f.bytes || startsWithHex 4 rest
    | 'U' => f.bytes || startsWithCode rest
    | 'N' => f.bytes || startsWithName rest
    | _ => true

/-- Can the character stand in the text? -/
def takesChar (f : StringForm) (c : Char) : Bool := !f.bytes || c.toNat < 0x80

/-- What follows the text, if it ends and all of it is in order. -/
def afterEnd? (f : StringForm) : List Char → Option (List Char)
  | [] => none
  | '\\' :: c :: cs =>
    if f.takesChar c && f.takesEscape c cs then f.afterEnd? cs else none
  | c :: cs =>
    if c = '\\' || !f.takesChar c || (c = '\n' && !f.triple) then none
    else if c ≠ f.quote then f.afterEnd? cs
    else if !f.triple then some cs
    else if [f.quote, f.quote].isPrefixOf cs then some (cs.drop 2)
    else f.afterEnd? cs

end StringForm

/-- The form of a text by the word before its quote. -/
def formOf? (word : List Char) (quote : Char) : Option StringForm :=
  match String.ofList (word.map Char.toLower) with
  | "" => some { quote }
  | "u" => some { quote }
  | "r" => some { quote, raw := true }
  | "b" => some { quote, bytes := true }
  | "br" => some { quote, raw := true, bytes := true }
  | "rb" => some { quote, raw := true, bytes := true }
  | _ => none

/-- Reads a text behind the word before it. -/
def string? (word : List Char) (quote : Char) (cs : List Char) : Option (Token × List Char) := do
  let form ← formOf? word quote
  let triple := [quote, quote].isPrefixOf cs
  let rest ← { form with triple }.afterEnd? (if triple then cs.drop 2 else cs)
  return (.string form.bytes, rest)

/-- Digits with single low lines between them, and what follows. -/
def digits (isDigit : Char → Bool) : List Char → List Char × List Char
  | [] => ([], [])
  | '_' :: c :: cs => if isDigit c then (digits isDigit (c :: cs)) else ([], '_' :: c :: cs)
  | c :: cs =>
    if isDigit c then
      let (ds, rest) := digits isDigit cs
      (c :: ds, rest)
    else ([], c :: cs)

/-- Digits that do not begin with a low line. -/
def number (isDigit : Char → Bool) (cs : List Char) : List Char × List Char :=
  if cs.head?.any isDigit then digits isDigit cs else ([], cs)

/-- The digits of a number system, by the letter behind the zero. -/
def system? (letter : Char) : Option (Char → Bool) :=
  match letter.toLower with
  | 'x' => some isHexDigit
  | 'o' => some fun c => '0' ≤ c && c ≤ '7'
  | 'b' => some fun c => c = '0' || c = '1'
  | _ => none

/-- The exponent of a number, if there is one: what follows it. -/
def afterExponent? (cs : List Char) : Option (List Char) :=
  match cs with
  | e :: rest =>
    if e = 'e' || e = 'E' then
      let rest := match rest with
        | '+' :: r => r
        | '-' :: r => r
        | r => r
      let (ds, rest) := number Char.isDigit rest
      if ds.isEmpty then none else some rest
    else none
  | [] => none

/-- The most digits of an integer. -/
def longestInteger : Nat := 4300

/-- A number in decimal. -/
def decimal? (cs : List Char) : Option (Token × List Char) :=
  let (whole, rest) := number Char.isDigit cs
  let (point, rest) := match rest with
    | '.' :: r => (true, (number Char.isDigit r).2)
    | r => (false, r)
  let (exponent, rest) := match afterExponent? rest with
    | some r => (true, r)
    | none => (false, rest)
  match rest with
  | 'j' :: r => some (.number true, r)
  | 'J' :: r => some (.number true, r)
  | r =>
    if point || exponent then some (.number false, r)
    else if longestInteger < whole.length then none
    else if whole.head? = some '0' && whole.any (· ≠ '0') then none
    else some (.number false, r)

/-- Reads a number. -/
def number? (cs : List Char) : Option (Token × List Char) :=
  match cs with
  | '0' :: letter :: rest =>
    match system? letter with
    | some isDigit =>
      let (ds, rest) := digits isDigit rest
      if ds.isEmpty then none else some (.number false, rest)
    | none => decimal? cs
  | _ => decimal? cs

/-- Can the character stand in a word? -/
def inWord (c : Char) : Bool := Text.isWordChar c || 0x80 ≤ c.toNat

/-- Reads a token other than a bracket and a line break. -/
def simple? (c : Char) (cs : List Char) : Option (Token × List Char) :=
  if c = '+' || c = '-' then some (.sign, cs)
  else if c = ',' then some (.comma, cs)
  else if c = ':' then some (.colon, cs)
  else if c = '"' || c = '\'' then string? [] c cs
  else if ['.', '.', '.'].isPrefixOf (c :: cs) then some (.ellipsis, cs.drop 2)
  else if c.isDigit || (c = '.' && cs.head?.any Char.isDigit) then number? (c :: cs)
  else if inWord c then
    let word := (c :: cs).takeWhile inWord
    match (c :: cs).drop word.length with
    | '"' :: rest => string? word '"' rest
    | '\'' :: rest => string? word '\'' rest
    | rest => some (.word word, rest)
  else none

/-- Where a line stands while its beginning is read. -/
inductive LineStart
  | flush
  | indented
  | comment
deriving Repr, DecidableEq

/-- What is left of a text without empty lines and comments in front.  The first line that is left,
if only its end, may not be indented. -/
def afterBlankLines? : LineStart → List Char → Option (List Char)
  | .indented, [] => none
  | _, [] => some []
  | .comment, c :: cs => afterBlankLines? (if c = '\n' then .flush else .comment) cs
  | here, '\\' :: '\n' :: c :: cs => afterBlankLines? here (c :: cs)
  | here, c :: cs =>
    if c = '\n' || c = Char.ofNat 0x0C then afterBlankLines? .flush cs
    else if c = ' ' || c = '\t' then afterBlankLines? .indented cs
    else if c = '#' then afterBlankLines? .comment cs
    else if here = .flush then some (c :: cs)
    else none

/-- How deep brackets may lie in one another. -/
def deepest : Nat := 200

/-- The tokens of a text, in which line breaks are line feeds, up to the first of those outside
brackets.  Each step takes at least one character, so as much fuel as there are characters is
enough. -/
def tokensFrom : Nat → Nat → List Char → Option (List Token)
  | _, _, [] => some []
  | 0, _, _ => none
  | fuel + 1, depth, c :: cs =>
    if c = ' ' || c = '\t' || c = Char.ofNat 0x0C then tokensFrom fuel depth cs
    else if c = '#' then tokensFrom fuel depth (cs.dropWhile (· ≠ '\n'))
    else if c = '\\' then
      match cs with
      | '\n' :: d :: rest => tokensFrom fuel depth (d :: rest)
      | _ => none
    else if c = '\n' then
      if depth ≠ 0 then tokensFrom fuel depth cs
      else if afterBlankLines? .flush cs = some [] then some []
      else none
    else if c = '(' || c = '{' then
      if depth < deepest then (tokensFrom fuel (depth + 1) cs).map (.opening c :: ·) else none
    else if c = ')' || c = '}' then
      (tokensFrom fuel (depth - 1) cs).map (.closing c :: ·)
    else
      match simple? c cs with
      | some (t, rest) => (tokensFrom fuel depth rest).map (t :: ·)
      | none => none

/-- The tokens of a text.  The null character stands in no literal. -/
def tokens? (cs : List Char) : Option (List Token) :=
  if cs.contains (Char.ofNat 0) then none
  else do
    let cs ← afterBlankLines? .flush (Text.unifyLineEndsOf cs)
    tokensFrom cs.length 0 cs

/-! ## Grammar -/

/-- What part of a literal it is. -/
inductive Kind
  | real
  | imaginary
  /-- A real number behind a sign. -/
  | signedReal
  /-- Any other literal; a fixed one can be an element or a key. -/
  | other (fixed : Bool)
  /-- The name of the empty set, which is a literal only when it is called. -/
  | setName
deriving Repr, DecidableEq

namespace Kind

/-- Is it a literal? -/
def isLiteral (k : Kind) : Bool := k ≠ setName

/-- Can it be an element or a key? -/
def isFixed : Kind → Bool
  | other fixed => fixed
  | setName => false
  | _ => true

end Kind

/-- The tokens behind texts in a row, or bytes; the two may not mix. -/
def afterStrings? (bytes : Bool) : List Token → Option (List Token)
  | .string b :: ts => if b = bytes then afterStrings? bytes ts else none
  | ts => some ts

/-- The codes of the characters that can stand for a letter of a name, among them the forms for
mathematics. -/
def letterForms : Char → List Nat
  | 's' =>
    [0x73, 0x17F, 0x2E2, 0x209B, 0xFF53, 0x1D42C, 0x1D460, 0x1D494, 0x1D4C8, 0x1D4FC, 0x1D530,
      0x1D564, 0x1D598, 0x1D5CC, 0x1D600, 0x1D634, 0x1D668, 0x1D69C]
  | 'e' =>
    [0x65, 0x1D49, 0x2091, 0x212F, 0x2147, 0xFF45, 0x1D41E, 0x1D452, 0x1D486, 0x1D4EE, 0x1D522,
      0x1D556, 0x1D58A, 0x1D5BE, 0x1D5F2, 0x1D626, 0x1D65A, 0x1D68E]
  | 't' =>
    [0x74, 0x1D57, 0x209C, 0xFF54, 0x1D42D, 0x1D461, 0x1D495, 0x1D4C9, 0x1D4FD, 0x1D531, 0x1D565,
      0x1D599, 0x1D5CD, 0x1D601, 0x1D635, 0x1D669, 0x1D69D]
  | c => [c.toNat]

/-- The name of the empty set. -/
def emptySetName : List Char := ['s', 'e', 't']

/-- Is it the name of the empty set?  Names are the same if their letters are, in any form. -/
def isEmptySetName (word : List Char) : Bool :=
  word.length = emptySetName.length
    && (word.zip emptySetName).all fun p => (letterForms p.2).contains p.1.toNat

/-- A literal in one word. -/
def wordKind? (word : List Char) : Option Kind :=
  if isEmptySetName word then some .setName
  else if ["True", "False", "None"].contains (String.ofList word) then some (.other true)
  else none

/-- A number behind a sign. -/
def signed? : Kind → Option Kind
  | .real => some .signedReal
  | .imaginary => some (.other true)
  | _ => none

/-- Calls what was read, if brackets with nothing in them follow. -/
def call : Kind × List Token → Kind × List Token
  | (.setName, .opening '(' :: .closing ')' :: ts) => (.other false, ts)
  | r => r

mutual

/-- A part without a sign before it. -/
def atom? : Nat → List Token → Option (Kind × List Token)
  | 0, _ => none
  | n + 1, ts =>
    match ts with
    | .number imaginary :: ts => some (if imaginary then .imaginary else .real, ts)
    | .string bytes :: ts => (afterStrings? bytes ts).map fun ts => (.other true, ts)
    | .word w :: ts => (wordKind? w).map fun k => call (k, ts)
    | .ellipsis :: ts => some (.other true, ts)
    | .opening '(' :: .closing ')' :: ts => some (.other true, ts)
    | .opening '(' :: ts => do
      let (k, ts) ← sum? n ts
      match ts with
      | .closing ')' :: ts => return call (k, ts)
      | _ =>
        let (fixed, ts) ← elements? n ')' k ts
        return (.other fixed, ts)
    | .opening '{' :: .closing '}' :: ts => some (.other false, ts)
    | .opening '{' :: ts => do
      let (k, ts) ← sum? n ts
      match ts with
      | .colon :: _ => return (.other false, ← entries? n k ts)
      | _ =>
        let (fixed, ts) ← elements? n '}' k ts
        if fixed then return (.other false, ts) else none
    | _ => none

/-- A number with or without a sign, a real number and an imaginary one, or any other part. -/
def sum? : Nat → List Token → Option (Kind × List Token)
  | 0, _ => none
  | n + 1, ts => do
    let (k, ts) ← match ts with
      | .sign :: ts => (atom? n ts).bind fun (k, ts) => (signed? k).map (·, ts)
      | ts => atom? n ts
    match ts with
    | .sign :: ts =>
      let (right, ts) ← atom? n ts
      if (k = .real || k = .signedReal) && right = .imaginary then return (.other true, ts)
      else none
    | ts => return (k, ts)

/-- Elements up to a closing bracket, behind one that was read: are all of them fixed?  A comma may
stand at the end. -/
def elements? : Nat → Char → Kind → List Token → Option (Bool × List Token)
  | 0, _, _, _ => none
  | n + 1, close, k, ts =>
    if !k.isLiteral then none
    else match ts with
      | .closing c :: ts => if c = close then some (k.isFixed, ts) else none
      | .comma :: .closing c :: ts => if c = close then some (k.isFixed, ts) else none
      | .comma :: ts => do
        let (k', ts) ← sum? n ts
        let (fixed, ts) ← elements? n close k' ts
        return (k.isFixed && fixed, ts)
      | _ => none

/-- Entries of a dictionary up to its end, behind the key of the first. -/
def entries? : Nat → Kind → List Token → Option (List Token)
  | 0, _, _ => none
  | n + 1, key, ts =>
    if !key.isFixed then none
    else match ts with
      | .colon :: ts => do
        let (v, ts) ← sum? n ts
        if !v.isLiteral then none
        match ts with
        | .closing '}' :: ts => return ts
        | .comma :: .closing '}' :: ts => return ts
        | .comma :: ts =>
          let (key, ts) ← sum? n ts
          entries? n key ts
        | _ => none
      | _ => none

end

/-- Do literals with commas between them follow, behind one that was read, and nothing else? -/
def listEnds : Nat → Kind → List Token → Bool
  | 0, _, _ => false
  | n + 1, k, ts =>
    k.isLiteral &&
      match ts with
      | .comma :: ts =>
        ts.isEmpty || match sum? n ts with
          | some (k, ts) => listEnds n k ts
          | none => false
      | ts => ts.isEmpty

end Literal

/-- Is the text a literal, or are there literals in it with commas between them?  Each call of the
grammar reads a token or stands for one that was read, so twice their number is enough fuel. -/
def isLiteral (cs : List Char) : Bool :=
  match Literal.tokens? cs with
  | none => false
  | some ts =>
    let fuel := 2 * ts.length + 2
    match Literal.sum? fuel ts with
    | some (k, ts) => Literal.listEnds fuel k ts
    | none => false

end Console
end Entigram
