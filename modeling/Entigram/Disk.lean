import Entigram.Path

/-!
# A file system as a value

The files and directories that the program sees.  A place is the list of names on the way from the
root; a path is looked up from a working directory, name by name, and every name but the last has to
lead through a directory that exists (`Disk.locate`).

The operations answer like a real file system does, faults included: a missing file, a directory
where a file is wanted, a file where a directory is wanted, a file in the place of a directory that
is to be made, names and paths that are too long, and paths that hold the null character.

A file that is given a new content is emptied first (`Disk.overwrite`).  The device below may stop
taking the content on the way, and what it took by then is what the file holds from there on.
-/

set_option autoImplicit false

namespace Entigram

/-- Taking keys away from a list of pairs takes away what is found under them. -/
theorem lookup_filter {α β : Type} [BEq α] [LawfulBEq α] (keep : α → Bool) (xs : List (α × β))
    (a : α) : (xs.filter fun x => keep x.1).lookup a = if keep a then xs.lookup a else none := by
  induction xs with
  | nil => exact (ite_self _).symm
  | cons x xs ih =>
    obtain ⟨b, y⟩ := x
    rw [List.filter_cons, List.lookup_cons]
    by_cases hab : a = b
    · subst hab
      cases hkeep : keep a <;> simp [hkeep, ih]
    · rw [beq_false_of_ne hab]
      cases keep b <;> simp [List.lookup_cons, beq_false_of_ne hab, ih]

/-- What a place holds. -/
inductive Node
  | file (content : String)
  | directory
deriving Repr, DecidableEq

namespace Node

/-- Is it a file? -/
def isFile : Node → Bool
  | file _ => true
  | directory => false

/-- What a file holds; a directory has no text. -/
def text : Node → String
  | file content => content
  | directory => ""

/-- The number of bytes; a directory counts as empty. -/
def bytes (n : Node) : Nat := n.text.utf8ByteSize

end Node

/-- A place in a file system: the names on the way from the root. -/
abbrev Place := List String

/-- A file system.  The root is a directory and need not be listed. -/
structure Disk where
  nodes : List (Place × Node) := []
deriving Repr, Inhabited

namespace Disk

/-- Why an operation fails. -/
inductive Fault
  | missing
  | isDirectory
  | notDirectory
  | alreadyExists
  /-- A name has more bytes than the file system keeps, or a path more than it reads. -/
  | tooLong
  /-- A path holds the character that ends paths. -/
  | nullCharacter
  /-- The device does not take all of a content. -/
  | incomplete
deriving Repr, DecidableEq

/-- The greatest number of bytes of a name. -/
def longestName : Nat := 255

/-- The greatest number of bytes of a path. -/
def longestPath : Nat := 4095

/-- What a place holds, if it exists. -/
def at? (d : Disk) (place : Place) : Option Node :=
  if place.isEmpty then some .directory else d.nodes.lookup place

/-- Puts something in a place, instead of what it held. -/
def set (d : Disk) (place : Place) (node : Node) : Disk where
  nodes := (place, node) :: d.nodes.filter fun p => p.1 ≠ place

/-- Fails unless the place holds a directory. -/
def requireDirectory (d : Disk) (place : Place) : Except Fault Unit :=
  match d.at? place with
  | some .directory => .ok ()
  | some (.file _) => .error .notDirectory
  | none => .error .missing

/-- Fails if the text of a path is none that the file system reads. -/
def checkPath (p : Path) : Except Fault Unit :=
  if p.toString.toList.contains (Char.ofNat 0) then .error .nullCharacter
  else if longestPath < p.toString.utf8ByteSize then .error .tooLong
  else .ok ()

/-- Fails if a name is too long. -/
def checkName (name : String) : Except Fault Unit :=
  if longestName < name.utf8ByteSize then .error .tooLong else .ok ()

/-- The place that a name leads to from a directory. -/
def next (here : Place) (name : String) : Place :=
  if name = ".." then here.dropLast else here ++ [name]

/-- The place that names lead to from a directory.  The last name need not exist. -/
def locateFrom (d : Disk) (here : Place) : List String → Except Fault Place
  | [] => .ok here
  | name :: names => do
    d.requireDirectory here
    checkName name
    locateFrom d (next here name) names

/-- Where a path starts. -/
def start (working : Place) (p : Path) : Place := if p.isAbsolute then [] else working

/-- The place of a path, seen from a working directory. -/
def locate (d : Disk) (working : Place) (p : Path) : Except Fault Place := do
  checkPath p
  d.locateFrom (start working p) p.names

/-- The absolute path that means the same as a path, if the names before every `..` lead to
directories. -/
def absolute (working : Place) (p : Path) : Path where
  root := "/"
  names := p.names.foldl next (start working p)

/-- The places that names lead through from a directory, and where they lead. -/
def wayFrom (here : Place) : List String → List Place
  | [] => [here]
  | name :: names => here :: wayFrom (next here name) names

/-- All places that looking a path up depends on. -/
def way (working : Place) (p : Path) : List Place := wayFrom (start working p) p.names

/-- What a path leads to, if it exists. -/
def find? (d : Disk) (working : Place) (p : Path) : Option Node :=
  match d.locate working p with
  | .ok place => d.at? place
  | .error _ => none

/-- What a path leads to, if it exists.  A name that is too long makes the question fail; in every
other case a path that cannot be followed leads nowhere. -/
def status (d : Disk) (working : Place) (p : Path) : Except Fault (Option Node) :=
  match d.locate working p with
  | .ok place => .ok (d.at? place)
  | .error .tooLong => .error .tooLong
  | .error _ => .ok none

/-- The content of a file. -/
def read (d : Disk) (working : Place) (p : Path) : Except Fault String := do
  match d.at? (← d.locate working p) with
  | some (.file content) => return content
  | some .directory => throw .isDirectory
  | none => throw .missing

/-- The place of a file that is to be written; the directory it lies in has to exist. -/
def placeToWrite (d : Disk) (working : Place) (p : Path) : Except Fault Place := do
  let place ← d.locate working p
  if d.at? place = some .directory then throw .isDirectory else return place

/-- Gives a file a content, all of which is taken. -/
def write (d : Disk) (working : Place) (p : Path) (content : String) : Except Fault Disk := do
  return d.set (← d.placeToWrite working p) (.file content)

/-- Adds to the end of a file, which is made if it does not exist. -/
def append (d : Disk) (working : Place) (p : Path) (content : String) : Except Fault Disk :=
  d.write working p (((d.find? working p).map Node.text).getD "" ++ content)

/-- Makes a directory; the one above it has to exist. -/
def makeOne (d : Disk) (working : Place) (p : Path) : Except Fault Disk := do
  let place ← d.locate working p
  match d.at? place with
  | some _ => throw .alreadyExists
  | none => return d.set place .directory

/-- A change that can fail on the way: what was done by then stays. -/
abbrev Attempt := Disk × Except Fault Unit

/-- What a device makes of the content for a file: what it took when it stopped, or nothing if it
takes the whole. -/
abbrev Device := Disk → Place → String → Option String

/-- Gives a file a new content.  The file is opened first, which makes it if it does not exist and
empties it if it does; then the content goes to the device. -/
def overwrite (d : Disk) (device : Device) (working : Place) (p : Path) (content : String) :
    Attempt :=
  match d.placeToWrite working p with
  | .error fault => (d, .error fault)
  | .ok place =>
    let opened := d.set place (.file "")
    match device opened place content with
    | some taken => (opened.set place (.file taken), .error .incomplete)
    | none => (opened.set place (.file content), .ok ())

/-- What comes of making a directory where one may be already. -/
def settled (d : Disk) (working : Place) (p : Path) : Except Fault Disk → Attempt
  | .ok made => (made, .ok ())
  | .error fault => (d, if d.find? working p = some .directory then .ok () else .error fault)

/-- Makes a directory, given by its root and its names from the last to the first, and those above
it that are missing. -/
def makeUpwards (d : Disk) (working : Place) (root : String) : List String → Attempt
  | [] => settled d working { root, names := [] } (d.makeOne working { root, names := [] })
  | name :: above =>
    let p : Path := { root, names := (name :: above).reverse }
    match d.makeOne working p with
    | .error .missing =>
      match makeUpwards d working root above with
      | (d, .error fault) => (d, .error fault)
      | (d, .ok ()) => settled d working p (d.makeOne working p)
    | made => settled d working p made

/-- Makes a directory and those above it, where they do not exist.  Those that were made before a
fault stay. -/
def makeDirectory (d : Disk) (working : Place) (p : Path) : Attempt :=
  makeUpwards d working p.root p.names.reverse

/-! ## Single places -/

section set

variable {d : Disk} {place other : Place}

theorem at?_set_self (d : Disk) {place : Place} (node : Node) (h : place ≠ []) :
    (d.set place node).at? place = some node := by
  simp [at?, set, h]

theorem at?_set_ne (h : other ≠ place) (node : Node) :
    (d.set place node).at? other = d.at? other := by
  rw [at?, at?, set, List.lookup_cons, beq_false_of_ne h,
    lookup_filter (fun q => decide (q ≠ place)), if_pos (decide_eq_true h)]

/-- Only a directory cannot be written. -/
theorem placeToWrite_eq_ok_iff {working : Place} {p : Path} :
    d.placeToWrite working p = .ok place ↔
      d.locate working p = .ok place ∧ d.at? place ≠ some .directory := by
  rw [placeToWrite]
  cases d.locate working p with
  | error fault => exact iff_of_false nofun nofun
  | ok found =>
    show (if d.at? found = some .directory then Except.error Fault.isDirectory else .ok found) =
      .ok place ↔ _
    split
    · next hdir => exact iff_of_false nofun fun h => h.2 (Except.ok.inj h.1 ▸ hdir)
    · next hfree =>
      constructor
      · rintro ⟨⟩
        exact ⟨rfl, hfree⟩
      · exact fun h => h.1

/-- A file that is put where no directory is takes the place of none. -/
theorem at?_set_file_of_directory (hplace : d.at? place ≠ some .directory)
    (h : d.at? other = some .directory) (content : String) :
    (d.set place (.file content)).at? other = some .directory := by
  have hne : other ≠ place := by
    rintro rfl
    exact hplace h
  rw [at?_set_ne hne, h]

/-- **Writing takes away no directories.** -/
theorem directory_of_write {working : Place} {p : Path} {content : String} {d' : Disk}
    (h : d.write working p content = .ok d') (hother : d.at? other = some .directory) :
    d'.at? other = some .directory := by
  rw [write] at h
  cases hplace : d.placeToWrite working p with
  | error fault =>
    rw [hplace] at h
    cases h
  | ok place =>
    rw [hplace] at h
    obtain rfl := Except.ok.inj h
    exact at?_set_file_of_directory (placeToWrite_eq_ok_iff.1 hplace).2 hother content

end set

end Disk

end Entigram
