import Entigram.Config.Loading
import Entigram.Proofs.Disk

/-!
# Where the value of a variable comes from

Files with variables add what is not set yet, one after the other.  So a variable has the value that
it had before, or else the one from the first file that sets it (`lookup_loadVariables`).

What a file says can mention other variables, so each file is read with what is set by then
(`firstSetting`).  Which variables it sets does not depend on that, whoever reads it
(`VariableReader.map_fst_read`).  Therefore files that were read once have nothing to add when they
are read again, whatever else was set in the meantime (`loadVariables_again`).
-/

set_option autoImplicit false

namespace Entigram

/-- The same files, seen from the same directory and by the same user, and the same libraries to
read them.  The variables and the clock may be others. -/
structure World.SameFiles (w w' : World) : Prop where
  disk : w'.disk = w.disk
  working : w'.working = w.working
  home : w'.home = w.home
  libraries : w'.libraries = w.libraries

theorem World.SameFiles.withVars {w w' : World} (h : w.SameFiles w')
    (vars vars' : List (String × String)) :
    { w with vars := vars }.SameFiles { w' with vars := vars' } :=
  ⟨h.disk, h.working, h.home, h.libraries⟩

/-- A variable that a text sets is among those that it sets, whatever is set already. -/
theorem VariableReader.isSome_lookup_read (reader : VariableReader)
    {vars vars' : List (String × String)} {text : String} {p : String × String}
    (h : p ∈ reader.read vars text) : ((reader.read vars' text).lookup p.1).isSome = true := by
  have hname := List.mem_map_of_mem (f := Prod.fst) h
  rw [reader.map_fst_read _ vars', List.mem_map] at hname
  obtain ⟨q, hq, hqp⟩ := hname
  rw [List.lookup_isSome_iff]
  exact ⟨q, hq, by simp [hqp]⟩

namespace Config

/-! ## One file -/

variable {reader : VariableReader} {vars vars' new : List (String × String)} {name text : String}

/-- Added variables do not take the place of those that are there. -/
theorem lookup_addVariables (vars new : List (String × String)) (name : String) :
    (addVariables vars new).lookup name = (vars.lookup name).or (new.lookup name) := by
  rw [addVariables, List.lookup_append, lookup_filter fun n => (vars.lookup n).isNone]
  cases vars.lookup name <;> rfl

/-- A text of which all variables can be set adds them. -/
theorem eq_of_loadText (h : loadText reader vars text = (vars', .ok ())) :
    vars' = addVariables vars (reader.read vars text) := by
  rw [loadText] at h
  obtain ⟨hvars, hall⟩ := Prod.mk.inj h
  split at hall
  · next hlength =>
    rw [(List.takeWhile_prefix _).eq_of_length hlength] at hvars
    rw [← hvars, addVariables, addVariables, List.filter_filter]
    simp
  · cases hall

/-- A text of which all variables are set has nothing to add. -/
theorem loadText_of_isSome (h : ∀ p ∈ reader.read vars text, (vars.lookup p.1).isSome = true) :
    loadText reader vars text = (vars, .ok ()) := by
  have hnone : (reader.read vars text).filter (fun p => (vars.lookup p.1).isNone) = [] := by
    rw [List.filter_eq_nil_iff]
    intro p hp
    simp [Option.isSome_iff_ne_none.1 (h p hp)]
  simp [loadText, hnone, addVariables]

/-! ## Files, one after the other -/

variable {w w' : World} {listener : Listener} {paths : List Path}

/-- **The value that the first of some files sets a variable to.**  Each file is read with the
variables that are set by then. -/
def firstSetting (w : World) (name : String) : List Path → Option String
  | [] => none
  | path :: rest =>
    match w.disk.find? w.working path with
    | none => firstSetting w name rest
    | some node =>
      let found := w.libraries.variableReader.read w.vars node.text
      (found.lookup name).or
        (firstSetting { w with vars := addVariables w.vars found } name rest)

/-- A file that is there and that can be read is followed by the others. -/
theorem loadVariables_of_text {path : Path} {rest : List Path} {node : Node} {told : List String}
    (hstatus : w.disk.status w.working path = .ok (some node))
    (htold : tell listener s!"Loading variables from: [blue]{path}[/blue]" = (told, .ok ()))
    (htext : loadText w.libraries.variableReader w.vars node.text = (vars', .ok ())) :
    loadVariables listener w (path :: rest) =
      ((loadVariables listener { w with vars := vars' } rest).1,
        told ++ (loadVariables listener { w with vars := vars' } rest).2.1,
        (loadVariables listener { w with vars := vars' } rest).2.2) := by
  simp [loadVariables, hstatus, htold, htext]

/-- **Where values come from.**  When the files have been read, a variable has the value that it had
before, or else what the first file that sets it says. -/
theorem lookup_loadVariables {log : List String}
    (h : loadVariables listener w paths = (vars, log, .ok ())) (name : String) :
    vars.lookup name = (w.vars.lookup name).or (firstSetting w name paths) := by
  fun_induction loadVariables listener w paths generalizing vars log with
  | case1 w =>
    obtain rfl := (Prod.mk.inj h).1
    exact (Option.or_none).symm
  | case2 w path rest fault hstatus => cases h
  | case3 w path rest hstatus ih => rw [ih h, firstSetting, Disk.find?_of_status hstatus]
  | case4 w path rest node hstatus told why htold => cases h
  | case5 w path rest node hstatus told htold vars' why hload => cases h
  | case6 w path rest node hstatus told htold vars' hload vars'' more result hrest ih =>
    obtain ⟨rfl, hlog⟩ := Prod.mk.inj h
    obtain ⟨-, rfl⟩ := Prod.mk.inj hlog
    obtain rfl : vars' = addVariables w.vars (w.libraries.variableReader.read w.vars node.text) :=
      eq_of_loadText hload
    rw [ih hrest, lookup_addVariables, Option.or_assoc, firstSetting, Disk.find?_of_status hstatus]

/-- **Files that were read have nothing to add**, whatever else is set by now. -/
theorem loadVariables_again {log : List String} (hfiles : w.SameFiles w')
    (h : loadVariables listener w paths = (vars, log, .ok ()))
    (hset : ∀ name, (vars.lookup name).isSome = true → (w'.vars.lookup name).isSome = true) :
    loadVariables listener w' paths = (w'.vars, log, .ok ()) := by
  fun_induction loadVariables listener w paths generalizing vars log with
  | case1 w =>
    obtain rfl := (Prod.mk.inj (Prod.mk.inj h).2).1
    rfl
  | case2 w path rest fault hstatus => cases h
  | case3 w path rest hstatus ih =>
    rw [loadVariables, hfiles.disk, hfiles.working, hstatus]
    exact ih hfiles h hset
  | case4 w path rest node hstatus told why htold => cases h
  | case5 w path rest node hstatus told htold vars' why hload => cases h
  | case6 w path rest node hstatus told htold vars' hload vars'' more result hrest ih =>
    obtain ⟨rfl, hlog⟩ := Prod.mk.inj h
    obtain ⟨rfl, rfl⟩ := Prod.mk.inj hlog
    have hadded : vars' = addVariables w.vars (w.libraries.variableReader.read w.vars node.text) :=
      eq_of_loadText hload
    -- what the file sets was set when it was read first, and so it is set now
    have hagain : loadText w'.libraries.variableReader w'.vars node.text = (w'.vars, .ok ()) := by
      rw [hfiles.libraries]
      refine loadText_of_isSome fun p hp => hset _ ?_
      rw [lookup_loadVariables hrest, hadded, lookup_addVariables,
        Option.isSome_or, Option.isSome_or, VariableReader.isSome_lookup_read _ hp]
      simp
    have hstatus' : w'.disk.status w'.working path = .ok (some node) := by
      rw [hfiles.disk, hfiles.working, hstatus]
    rw [loadVariables_of_text hstatus' htold hagain,
      ih (hfiles.withVars vars' w'.vars) hrest hset]

end Config
end Entigram
