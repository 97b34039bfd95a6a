import Entigram.Config.Shown
import Entigram.Text.Case
import Entigram.Text.Search

/-!
# Configurations as trees

A configuration is a tree of keys.  It is put together from layers: one tree is merged over another
(`merge`), and environment variables set single values by their paths (`applyVariables`).

* Merging goes down where both trees have an object under a key; anywhere else the value of the
  upper tree replaces the one below it, as a whole.  Keys that begin with a low line are notes to
  the reader and are skipped, on the levels that merging visits.
* Setting a value goes down its path and makes an object of everything on the way that is none.

Every assignment is reported, in order, with the configuration as it is then (`Report`): whoever
listens can break a change off at a report.
-/

set_option autoImplicit false

namespace Entigram
namespace Config

/-! ## Faults -/

/-- Why a configuration cannot be changed as wanted. -/
inductive TreeFault
  /-- Keys are looked up in a value that has none. -/
  | noEntries
  /-- A key is set in a value that cannot hold keys. -/
  | noKeys
  /-- A path without any key. -/
  | emptyPath
deriving Repr, DecidableEq

/-- A report on the way of a change, and the configuration at that time. -/
structure Report where
  text : String
  fields : Json.Fields
deriving Repr

/-- A changed configuration, what was reported, and the fault that ended the change, if any. -/
structure Change where
  fields : Json.Fields
  reports : List Report := []
  fault : Option TreeFault := none
deriving Repr

namespace Change

/-- The texts of the reports. -/
def log (c : Change) : List String := c.reports.map (·.text)

/-- The change with its reports handed to a listener.  A report that is refused ends the change:
what was changed by then stays. -/
def heardBy {ε : Type} (listener : String → Except ε Unit) (c : Change) : Change × Except ε Unit :=
  let accepted := c.reports.takeWhile fun r => (listener r.text).isOk
  match c.reports.drop accepted.length with
  | [] => (c, .ok ())
  | r :: _ => ({ fields := r.fields, reports := accepted }, listener r.text)

end Change

/-! ## Reading and setting along a path -/

/-- The value that a path leads to. -/
def read? : Json → List String → Option Json
  | v, [] => some v
  | .obj fs, key :: path => (Json.get? key fs).bind fun v => read? v path
  | _, _ :: _ => none

/-- The fields under a key; none if there is no object. -/
def fieldsUnder (key : String) (fs : Json.Fields) : Json.Fields :=
  match Json.get? key fs with
  | some (.obj inner) => inner
  | _ => []

/-- Sets the value that the path `key :: path` leads to. -/
def setAt (fs : Json.Fields) (key : String) (path : List String) (value : Json) : Json.Fields :=
  match path with
  | [] => Json.put key value fs
  | next :: rest => Json.put key (.obj (setAt (fieldsUnder key fs) next rest value)) fs

/-- Sets the value that a path leads to. -/
def setPath (fs : Json.Fields) (path : List String) (value : Json) : Change :=
  match path with
  | [] => { fields := fs, fault := some .emptyPath }
  | key :: rest => { fields := setAt fs key rest value }

/-! ## Merging -/

/-- Keys that are notes to the reader. -/
def isNote (key : String) : Bool := key.toList.head? = some '_'

/-- The report of an assignment. -/
def assignment (key : String) (value : Json) : String := s!"Override: {key} = {shown value}"

/-- An assignment and its report. -/
def assigned (base : Json.Fields) (key : String) (value : Json) : Json.Fields × List Report :=
  let fields := Json.put key value base
  (fields, [{ text := assignment key value, fields }])

mutual

/-- Merges fields over others, with the reports of the assignments. -/
def mergeFields (base : Json.Fields) : List (String × Json) → Json.Fields × List Report
  | [] => (base, [])
  | (key, value) :: rest =>
    if isNote key then mergeFields base rest
    else
      let (fields, reports) := mergeField base key value
      let (all, more) := mergeFields fields rest
      (all, reports ++ more)

/-- Merges the value of one key over others, with the reports of the assignments. -/
def mergeField (base : Json.Fields) (key : String) : Json → Json.Fields × List Report
  | .obj upper =>
    match Json.get? key base with
    | some (.obj lower) =>
      let (inner, reports) := mergeFields lower upper
      (Json.put key (.obj inner) base,
        reports.map fun r => { r with fields := Json.put key (.obj r.fields) base })
    | _ => assigned base key (.obj upper)
  | value => assigned base key value

end

/-- Merges a configuration over another. -/
def merge (base : Json.Fields) : Json → Change
  | .obj upper =>
    let (fields, reports) := mergeFields base upper
    { fields, reports }
  | _ => { fields := base, fault := some .noEntries }

/-! ## Environment variables -/

/-- The sections that variables can set, and how variables name them. -/
def sections : List (String × String) := [("global", "GLOBAL"), ("codegen", "CODEGEN")]

/-- What the names of a section's variables begin with. -/
def variableStart (sectionName : String) : String := s!"ER2CODE_{sectionName}_"

/-- The path in a section that a variable sets: the rest of its name in lower case, cut at doubled
low lines. -/
def variablePath? (sectionName name : String) : Option (List String) :=
  let start := (variableStart sectionName).toList
  if start.isPrefixOf name.toList then
    some ((Text.splitPairs '_' (Text.lowerChars (name.toList.drop start.length))).map
      String.ofList)
  else none

/-- Sets a value in a section, which is made if it is missing. -/
def setInSection (fs : Json.Fields) (key : String) (path : List String) (value : Json) :
    Except TreeFault Json.Fields :=
  match Json.get? key fs, path with
  | _, [] => .error .emptyPath
  | none, first :: rest => .ok (Json.put key (.obj (setAt [] first rest value)) fs)
  | some (.obj inner), first :: rest =>
    .ok (Json.put key (.obj (setAt inner first rest value)) fs)
  | some _, [_] => .error .noKeys
  | some _, _ :: _ :: _ => .error .noEntries

/-- Lets the variables of one section set values, in order. -/
def applySection (key sectionName : String) (fs : Json.Fields) :
    List (String × String) → Change
  | [] => { fields := fs }
  | (name, value) :: rest =>
    match variablePath? sectionName name with
    | none => applySection key sectionName fs rest
    | some path =>
      match setInSection fs key path (.str value) with
      | .error fault => { fields := fs, fault := some fault }
      | .ok fs' =>
        let later := applySection key sectionName fs' rest
        let report : Report := { text := s!"Env override: {name} = {value}", fields := fs' }
        { later with reports := report :: later.reports }

/-- Lets the variables of several sections set values, section by section. -/
def applySections (vars : List (String × String)) (fs : Json.Fields) :
    List (String × String) → Change
  | [] => { fields := fs }
  | (key, sectionName) :: rest =>
    let first := applySection key sectionName fs vars
    match first.fault with
    | some _ => first
    | none =>
      let later := applySections vars first.fields rest
      { later with reports := first.reports ++ later.reports }

/-- Lets environment variables set values. -/
def applyVariables (vars : List (String × String)) (fs : Json.Fields) : Change :=
  applySections vars fs sections

/-- Does a variable set anything? -/
def setsSomething (name : String) : Bool :=
  sections.any fun s => (variablePath? s.2 name).isSome

end Config
end Entigram
