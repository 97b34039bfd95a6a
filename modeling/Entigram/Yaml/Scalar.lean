import Entigram.Yaml.Cursor

/-!
# Scalars

A scalar is a piece of text in a configuration file: in double quotes, with escapes; in single
quotes, where a doubled quote is one quote; or plain, without quotes.

A scalar can go on over several lines.  Blanks around a line break do not count; a line break alone
is a space, and of several line breaks the first is dropped (`folded`).
-/

set_option autoImplicit false

namespace Entigram
namespace Yaml

/-! ## Line breaks in scalars -/

/-- What a line break and those behind it stand for. -/
def folded (first : Char) (more : List Char) : List Char :=
  (if first ≠ '\n' then [first] else if more.isEmpty then [' '] else []) ++ more

/-- Line breaks in a row, with the blanks between them: what they stand for.  A line that separates
documents is none of a scalar. -/
def breaks : Nat → Cursor → Except Fault (List Char × Cursor)
  | 0, _ => .error .token
  | n + 1, c =>
    if c.atSeparator then .error .token
    else
      let c := c.skipWhile isBlank
      match c.break? with
      | none => .ok ([], c)
      | some (b, c) => do
        let (more, c) ← breaks n c
        return (b :: more, c)

/-! ## Scalars in quotes -/

/-- The character that a letter behind a backslash stands for. -/
def escaped? (c : Char) : Option Char :=
  ([('0', 0x00), ('a', 0x07), ('b', 0x08), ('t', 0x09), ('\t', 0x09), ('n', 0x0A), ('v', 0x0B),
    ('f', 0x0C), ('r', 0x0D), ('e', 0x1B), (' ', 0x20), ('"', 0x22), ('\\', 0x5C), ('/', 0x2F),
    ('N', 0x85), ('_', 0xA0), ('L', 0x2028), ('P', 0x2029)].lookup c).map Char.ofNat

/-- The number of digits behind a letter behind a backslash. -/
def codeLength? (c : Char) : Option Nat := [('x', 2), ('u', 4), ('U', 8)].lookup c

/-- The value of a hexadecimal digit. -/
def hexValue? (c : Char) : Option Nat :=
  if c.isDigit then some (c.toNat - '0'.toNat)
  else if 'a' ≤ c && c ≤ 'f' then some (c.toNat - 'a'.toNat + 10)
  else if 'A' ≤ c && c ≤ 'F' then some (c.toNat - 'A'.toNat + 10)
  else none

/-- The value of hexadecimal digits. -/
def hexNumber? (cs : List Char) : Option Nat :=
  cs.foldlM (fun n c => (hexValue? c).map (n * 16 + ·)) 0

/-- The character of a number.  Half of a pair is no character: another one can stand for it, or
else it is refused. -/
def charOf (half : Option Char) (code : Nat) : Except Fault Char :=
  if 0x7FFFFFFF < code then .error .overflow
  else if 0x10FFFF < code then .error .number
  else if 0xD800 ≤ code && code ≤ 0xDFFF then
    match half with
    | some c => .ok c
    | none => .error .half
  else .ok (Char.ofNat code)

/-- The character that digits behind a backslash stand for. -/
def codeAt (half : Option Char) (length : Nat) (c : Cursor) : Except Fault (Char × Cursor) := do
  let digits := c.rest.take length
  match if digits.length = length then hexNumber? digits else none with
  | some code => return (← charOf half code, c.skip length)
  | none => throw .token

/-- What an escape stands for, read behind its backslash.  An escaped line break is dropped. -/
def escape (half : Option Char) (fuel : Nat) (c : Cursor) : Except Fault (List Char × Cursor) :=
  match c.peek with
  | none => .error .token
  | some ch =>
    match escaped? ch, codeLength? ch, c.break? with
    | some e, _, _ => .ok ([e], c.step)
    | none, some length, _ => (codeAt half length c.step).map fun (e, c) => ([e], c)
    | none, none, some (_, c) => breaks fuel c
    | none, none, none => .error .token

/-- Blanks in quotes, and line breaks behind them.  Blanks before a line break are dropped. -/
def quotedSpaces (fuel : Nat) (c : Cursor) : Except Fault (List Char × Cursor) :=
  let blanks := c.rest.takeWhile isBlank
  let c := c.skip blanks.length
  match c.break? with
  | none => .ok (blanks, c)
  | some (b, c) => (breaks fuel c).map fun (more, c) => (folded b more, c)

/-- A scalar in quotes, read behind the first one. -/
def quoted (half : Option Char) (quote : Char) :
    Nat → Cursor → Except Fault (List Char × Cursor)
  | 0, _ => .error .token
  | n + 1, c =>
    match c.rest with
    | [] => .error .token
    | ch :: rest =>
      if ch = quote then
        if quote = '\'' && rest.head? = some '\'' then
          (quoted half quote n (c.skip 2)).map fun (text, c) => ('\'' :: text, c)
        else .ok ([], c.step)
      else do
        let (piece, c) ←
          if ch = '\\' && quote = '"' then escape half n c.step
          else if isBlank ch || isBreak ch then quotedSpaces n c
          else .ok ([ch], c.step)
        let (text, c) ← quoted half quote n c
        return (piece ++ text, c)

/-! ## Plain scalars -/

/-- Are these characters signs in collections between brackets? -/
def isFlowSign (c : Char) : Bool := [',', '[', ']', '{', '}'].contains c

/-- The number of characters of a plain word.  It ends before blanks and line breaks, before a colon
that ends a key and, between brackets, before signs of collections. -/
def plainLength (inFlow : Bool) : List Char → Nat
  | [] => 0
  | c :: cs =>
    if isBlank c || isBreak c then 0
    else if c = ':' && (endsWord cs.head? || (inFlow && cs.head?.any isFlowSign)) then 0
    else if inFlow && (isFlowSign c || c = '?') then 0
    else plainLength inFlow cs + 1

/-- The spaces between lines of a plain scalar, without the first line break: what the line breaks
stand for, or nothing if a line separates documents. -/
def plainBreaks : Nat → Cursor → Option (List Char) × Cursor
  | 0, c => (none, c)
  | n + 1, c =>
    if c.peek = some ' ' then plainBreaks n c.step
    else match c.break? with
      | none => (some [], c)
      | some (b, c) =>
        if c.atSeparator then (none, c)
        else
          let (more, c) := plainBreaks n c
          (more.map (b :: ·), c)

/-- What stands between two words of a plain scalar. -/
structure PlainGap where
  /-- What it stands for; nothing if no word can follow. -/
  text : List Char
  /-- Is there a line break? -/
  breaksLine : Bool
  cursor : Cursor

/-- The gap at a place behind a word of a plain scalar. -/
def plainGap (fuel : Nat) (c : Cursor) : PlainGap :=
  let spaces := c.rest.takeWhile (· = ' ')
  let c := c.skip spaces.length
  match c.break? with
  | none => { text := spaces, breaksLine := false, cursor := c }
  | some (b, c) =>
    if c.atSeparator then { text := [], breaksLine := true, cursor := c }
    else match plainBreaks fuel c with
      | (some more, c) => { text := folded b more, breaksLine := true, cursor := c }
      | (none, c) => { text := [], breaksLine := true, cursor := c }

/-- A plain scalar. -/
structure PlainScalar where
  text : List Char
  /-- Is a line break read behind it? -/
  breaksLine : Bool
  cursor : Cursor

/-- A plain scalar, read behind a gap, in lines that have at least so many columns. -/
def plain (inFlow : Bool) (leastColumn : Int) : Nat → PlainGap → PlainScalar
  | 0, gap => ⟨[], gap.breaksLine, gap.cursor⟩
  | n + 1, gap =>
    let length := if gap.cursor.peek = some '#' then 0 else plainLength inFlow gap.cursor.rest
    if length = 0 then ⟨[], gap.breaksLine, gap.cursor⟩
    else
      let word := gap.text ++ gap.cursor.rest.take length
      let next := plainGap n (gap.cursor.skip length)
      if next.text.isEmpty || (!inFlow && (next.cursor.column : Int) < leastColumn) then
        ⟨word, next.breaksLine, next.cursor⟩
      else
        let more := plain inFlow leastColumn n next
        ⟨word ++ more.text, more.breaksLine, more.cursor⟩

/-- The plain scalar at a place. -/
def plainAt (inFlow : Bool) (leastColumn : Int) (fuel : Nat) (c : Cursor) : PlainScalar :=
  plain inFlow leastColumn fuel { text := [], breaksLine := false, cursor := c }

end Yaml
end Entigram
