import Entigram.Schema
import Entigram.Text.Blank
import Entigram.Text.Quoted
import Entigram.Text.WordChar

/-!
# What one line of a diagram says

A diagram is read line by line.  A line is understood by its shape alone and by whether it stands
inside an entity's block, and a line that fits no shape is passed over with a *note*; reading never
fails.  The shapes are tried in this order:

* a line that is blank, begins with `erDiagram` or is a comment (`%%`) says nothing;
* `NAME {` opens the block of an entity, `}` closes the open block;
* inside a block, `TYPE NAME FLAGS` is an attribute;
* outside, a line with `--` and a colon is a relationship, `LEFT MARKS--MARKS RIGHT : LABEL`.

`Statement.ofLine?` is this decision.  Its two harder parts, the cut between a name and its
cardinality marks, are `splitLeft` and `splitRight`: the letter `o` is both a mark and a letter, so
on the left the name takes as many characters as it can, and on the right the marks do.
-/

set_option autoImplicit false

namespace Entigram
namespace Diagram

open Text

/-! ## Notes -/

/-- A line that was passed over, with its number and its text. -/
inductive Note
  /-- A line in the block of `entity` with fewer than two words. -/
  | shortAttribute (line : Nat) (entity : String) (text : List Char)
  /-- A line with `--` and a colon that is no relationship. -/
  | unreadRelationship (line : Nat) (text : List Char)
  /-- A line of no known shape. -/
  | ignored (line : Nat) (text : List Char)
deriving Repr, DecidableEq

namespace Note

/-- The number of the line, counted from one. -/
def line : Note → Nat
  | shortAttribute n _ _ => n
  | unreadRelationship n _ => n
  | ignored n _ => n

/-- The note's text. -/
def message : Note → String
  | shortAttribute n entity text =>
    s!"Line {n}: skipping attribute line in {entity}: {quoted text}"
  | unreadRelationship n text => s!"Line {n}: skipping relationship line: {quoted text}"
  | ignored n text => s!"Line {n}: ignored: {quoted text}"

end Note

/-! ## Attributes -/

/-- Reads `TYPE NAME FLAGS`, where the flags may be missing and further words do not count. -/
def attribute? (line : List Char) : Option Attribute :=
  match words line with
  | dataType :: name :: rest =>
    let flags := rest.headD []
    some {
      name := String.ofList name
      dataType := String.ofList dataType
      isPrimaryKey := occurs ['P', 'K'] flags
      isForeignKey := occurs ['F', 'K'] flags }
  | _ => none

/-! ## Relationships -/

/-- The marks that cardinalities are written with. -/
def isMark (c : Char) : Bool := c = '|' || c = '}' || c = 'o' || c = '{'

/-- The marks that the text is made up of, behind blanks; there has to be one at least. -/
def onlyMarks? (cs : List Char) : Option (List Char) :=
  let marks := cs.dropWhile isBlank
  if !marks.isEmpty && marks.all isMark then some marks else none

/-- The name that begins the text, as long as it can be when only blanks and then marks follow it;
with the marks. -/
def nameThenMarks? : List Char → Option (List Char × List Char)
  | [] => none
  | c :: cs =>
    if isWordChar c then
      match nameThenMarks? cs with
      | some (name, marks) => some (c :: name, marks)
      | none => (onlyMarks? cs).map fun marks => ([c], marks)
    else none

/-- The left side of a relationship: a name and the marks at the end of the text.  The name begins
as far left as it can.  When a word does not begin with such a name, nothing inside the word does,
so a word is tried only once (`tried`). -/
def splitLeftFrom (tried : Bool) : List Char → Option (List Char × List Char)
  | [] => none
  | c :: cs =>
    if isWordChar c then
      match if tried then none else nameThenMarks? (c :: cs) with
      | some found => some found
      | none => splitLeftFrom true cs
    else splitLeftFrom false cs

/-- The left side of a relationship: a name and the marks at the end of the text. -/
def splitLeft (cs : List Char) : Option (List Char × List Char) := splitLeftFrom false cs

/-- The right side of a relationship: as many marks as there can be when blanks and then a name
follow them, and the name.  What follows the name does not count. -/
def splitRight : List Char → Option (List Char × List Char)
  | [] => none
  | c :: cs =>
    if isMark c then
      match splitRight cs with
      | some (marks, name) => some (c :: marks, name)
      | none =>
        let name := (cs.dropWhile isBlank).takeWhile isWordChar
        if name.isEmpty then none else some ([c], name)
    else none

/-- Reads `LEFT MARKS--MARKS RIGHT : LABEL`.  The first colon ends the two sides, and quotes around
the label are dropped. -/
def relationship? (line : List Char) : Option Relationship :=
  let head := line.takeWhile (· ≠ ':')
  let label := trimWhile (· = '"') (trim ((line.dropWhile (· ≠ ':')).drop 1))
  match splitPairs '-' (trim head) with
  | [left, right] =>
    match splitLeft (trim left), splitRight (trim right) with
    | some (source, sourceMarks), some (targetMarks, target) =>
      some {
        source := String.ofList source
        target := String.ofList target
        sourceCardinality := String.ofList sourceMarks
        targetCardinality := String.ofList targetMarks
        label := String.ofList label }
    | _, _ => none
  | _ => none

/-! ## Statements -/

/-- What a line says. -/
inductive Statement
  /-- The block of an entity begins. -/
  | opening (name : String)
  /-- The open block ends. -/
  | closing
  | attribute (a : Attribute)
  | relationship (r : Relationship)
  /-- Nothing that can be read. -/
  | unread (note : Note)
deriving Repr, DecidableEq

/-- A line that carries no content: blank, the diagram's heading or a comment. -/
def isSilent (line : List Char) : Bool :=
  line.isEmpty || ['e', 'r', 'D', 'i', 'a', 'g', 'r', 'a', 'm'].isPrefixOf line
    || ['%', '%'].isPrefixOf line

/-- A line that opens an entity's block.  A line with `||` belongs to a relationship. -/
def isOpening (line : List Char) : Bool :=
  ['{'].isSuffixOf line && !occurs ['|', '|'] line

/-- The entity name in an opening line. -/
def openedName (line : List Char) : String :=
  String.ofList (trim (line.filter (· ≠ '{')))

/-- What a trimmed line says, given its number and the entity whose block is open. -/
def Statement.ofTrimmed? (inside : Option String) (number : Nat) (line : List Char) :
    Option Statement :=
  if isSilent line then none
  else if isOpening line then some (.opening (openedName line))
  else if line = ['}'] then some .closing
  else match inside with
    | some entity =>
      match attribute? line with
      | some a => some (.attribute a)
      | none => some (.unread (.shortAttribute number entity line))
    | none =>
      if occurs ['-', '-'] line && line.contains ':' then
        match relationship? line with
        | some r => some (.relationship r)
        | none => some (.unread (.unreadRelationship number line))
      else some (.unread (.ignored number line))

/-- What a line says, given its number and the entity whose block is open. -/
def Statement.ofLine? (inside : Option String) (number : Nat) (line : List Char) :
    Option Statement :=
  Statement.ofTrimmed? inside number (trim line)

/-- The entity whose block is open after a statement. -/
def Statement.insideAfter (inside : Option String) : Statement → Option String
  | .opening name => some name
  | .closing => none
  | _ => inside

end Diagram
end Entigram
