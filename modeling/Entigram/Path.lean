import Entigram.Text.Search

/-!
# File paths

A path is a root, which may be absent, and the names below it.  Reading a path drops what does not
count: repeated slashes, a slash at the end and `.` segments.  `..` segments stay, because what
they mean depends on links.  Exactly two slashes in front are a root of their own.

Writing a path that was read gives its normal form; the empty path is written `.`.
-/

set_option autoImplicit false

namespace Entigram

/-- A file path: its root (`""`, `"/"` or `"//"`) and the names below the root. -/
structure Path where
  /-- What the path starts from; empty for a relative path. -/
  root : String
  /-- The names on the way, none of them empty or `.`. -/
  names : List String
deriving Repr, DecidableEq, Inhabited

namespace Path

/-- The root that a path's text starts with. -/
def rootOf (cs : List Char) : String :=
  match (cs.takeWhile (· = '/')).length with
  | 0 => ""
  | 2 => "//"
  | _ => "/"

/-- Reads a path. -/
def ofString (s : String) : Path where
  root := rootOf s.toList
  names :=
    ((Text.splitWhere (· = '/') s.toList).map String.ofList).filter fun n => n ≠ "" && n ≠ "."

/-- Writes a path in normal form. -/
def toString (p : Path) : String :=
  if p.root = "" && p.names.isEmpty then "." else p.root ++ "/".intercalate p.names

instance : ToString Path := ⟨Path.toString⟩

/-- Is the path's meaning independent of the working directory? -/
def isAbsolute (p : Path) : Bool := p.root ≠ ""

/-- The path that `q` names when it is looked up in the directory `p`. -/
def join (p q : Path) : Path :=
  if q.isAbsolute then q else { p with names := p.names ++ q.names }

/-- The directory that holds the path. -/
def parent (p : Path) : Path := { p with names := p.names.dropLast }

end Path

end Entigram
