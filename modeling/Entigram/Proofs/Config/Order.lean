import Mathlib.Data.List.Pairwise
import Mathlib.Data.List.Perm.Basic
import Entigram.Proofs.Config.Tree
import Entigram.Proofs.Json

/-!
# Variables in any order

The fields of an object are written down in an order, but what an object says does not depend on it.
Two trees are the same if the same is seen along every path (`SameTree`): an object, a value, or
nothing at all.  One level down this is what one expects: the same keys, with the same trees under
them (`sameTree_obj_iff`).

Setting a value writes into this view.  Along the path there are objects afterwards, whatever was
there before, below it is what is seen of the value, and everywhere else all is as it was
(`view_setPath`).  In this form it is plain that two paths of which none is the beginning of the
other can be set in either order (`write_comm`): where both make an object of something, they make
the same of it.  The trees themselves need not be equal, as the fields that are new come in the
order in which they are set.

A run of variables is a list of such settings, one section after the other
(`applySections_of_canBeSet`), so any rearrangement of the variables gives the same tree
(`writeAll_perm`).
-/

set_option autoImplicit false

namespace Entigram
namespace Config

/-! ## What is seen of a tree -/

/-- What is seen of a value from above. -/
inductive Seen
  /-- There is an object. -/
  | object
  /-- There is something else. -/
  | plain (v : Json)
deriving Repr

/-- What is seen of a value from above. -/
def seen : Json → Seen
  | .obj _ => .object
  | v => .plain v

/-- What is seen of a tree along a path. -/
def view (t : Json) (path : List String) : Option Seen := (read? t path).map seen

/-- The trees are the same but for the order of fields. -/
def SameTree (t u : Json) : Prop := view t = view u

section view

variable {t u : Json} {fs gs : Json.Fields}

theorem view_nil (t : Json) : view t [] = some (seen t) := by
  rw [view, read?]
  rfl

theorem view_obj_cons (fs : Json.Fields) (key : String) (path : List String) :
    view (.obj fs) (key :: path) = (Json.get? key fs).bind fun v => view v path := by
  rw [view, read?_obj_cons, Option.map_bind]
  rfl

/-- Trees that may be missing are the same if the same is seen of them. -/
theorem rel_sameTree_iff {v w : Option Json} : Option.Rel SameTree v w ↔
    ∀ path, (v.bind fun t => view t path) = w.bind fun t => view t path := by
  constructor
  · intro h path
    cases h with
    | some hsame => exact congrFun hsame path
    | none => rfl
  · intro h
    -- a tree that is there is seen from above
    have hnil := h []
    cases v with
    | none =>
      cases w with
      | none => exact .none
      | some u => rw [Option.bind_some, view_nil] at hnil; cases hnil
    | some t =>
      cases w with
      | none => rw [Option.bind_some, view_nil] at hnil; cases hnil
      | some u => exact .some (funext h)

/-- **Objects are the same** if they have the same keys, with the same values. -/
theorem sameTree_obj_iff : SameTree (.obj fs) (.obj gs) ↔
    ∀ key, Option.Rel SameTree (Json.get? key fs) (Json.get? key gs) := by
  simp only [rel_sameTree_iff, ← view_obj_cons]
  refine ⟨fun h key path => congrFun h (key :: path), fun h => funext fun path => ?_⟩
  cases path with
  | nil => rfl
  | cons key path => exact h key path

/-- A value that is no object is the same as itself only. -/
theorem eq_of_sameTree (h : SameTree t u) (ht : t.isObject = false) : t = u := by
  have hnil := congrFun h []
  rw [view_nil, view_nil, Option.some_inj] at hnil
  cases t with
  | obj => cases ht
  | _ => cases u <;> cases hnil; rfl

end view

/-! ## Settings that are apart -/

/-- Neither path is the beginning of the other. -/
def Apart (p q : List String) : Prop := ¬p <+: q ∧ ¬q <+: p

instance (p q : List String) : Decidable (Apart p q) :=
  inferInstanceAs (Decidable (¬p <+: q ∧ ¬q <+: p))

/-- A view with a value written into it: along the path there are objects, and below it is what is
seen of the value. -/
def write (w : List String → Option Seen) (path : List String) (value : Json) :
    List String → Option Seen := fun q =>
  if path <+: q then view value (q.drop path.length)
  else if q <+: path then some .object
  else w q

section write

variable {p q : List String} {fs : Json.Fields}

theorem Apart.symm (h : Apart p q) : Apart q p := And.symm h

/-- Paths that are apart stay so behind a key. -/
theorem Apart.cons (h : Apart p q) (key : String) : Apart (key :: p) (key :: q) := by
  rwa [Apart, List.prefix_cons_inj, List.prefix_cons_inj]

theorem apart_of_ne {key other : String} (h : key ≠ other) (p q : List String) :
    Apart (key :: p) (other :: q) :=
  ⟨fun hprefix => h (List.cons_prefix_cons.1 hprefix).1,
    fun hprefix => h (List.cons_prefix_cons.1 hprefix).1.symm⟩

/-- Paths that are apart have no path in common that goes on from both. -/
theorem Apart.not_prefix {r : List String} (h : Apart p q) (hr : p <+: r) : ¬q <+: r := by
  intro hq
  rcases List.prefix_or_prefix_of_prefix hr hq with hpq | hqp
  · exact h.1 hpq
  · exact h.2 hqp

/-- **What is written apart can be written in either order.** -/
theorem write_comm (h : Apart p q) (w : List String → Option Seen) (v v' : Json) :
    write (write w p v) q v' = write (write w q v') p v := by
  funext r
  simp only [write]
  by_cases hq : q <+: r
  · -- below the one path, the other does not come near
    have hp : ¬p <+: r := h.symm.not_prefix hq
    have hrp : ¬r <+: p := fun hrp => h.2 (hq.trans hrp)
    rw [if_pos hq, if_neg hp, if_neg hrp, if_pos hq]
  · by_cases hp : p <+: r
    · have hrq : ¬r <+: q := fun hrq => h.1 (hp.trans hrq)
      rw [if_neg hq, if_neg hrq, if_pos hp, if_pos hp]
    · rw [if_neg hq, if_neg hp, if_neg hp, if_neg hq]
      by_cases hrq : r <+: q
      · -- on the way to both there is an object, whichever made it
        by_cases hrp : r <+: p
        · rw [if_pos hrq, if_pos hrp]
        · rw [if_pos hrq, if_neg hrp, if_pos hrq]
      · rw [if_neg hrq, if_neg hrq]

theorem read?_append (t : Json) (p q : List String) :
    read? t (p ++ q) = (read? t p).bind fun v => read? v q := by
  induction p generalizing t with
  | nil => rw [read?]; rfl
  | cons key p ih =>
    cases t with
    | obj fs =>
      rw [List.cons_append, read?_obj_cons, read?_obj_cons, Option.bind_assoc]
      exact Option.bind_congr fun v _ => ih v
    | _ => rfl

/-- On the way to a value that was set there are objects. -/
theorem view_setAt_of_prefix (fs : Json.Fields) (key : String) (path : List String) (value : Json)
    (h : q <+: key :: path) (h' : ¬key :: path <+: q) :
    view (.obj (setAt fs key path value)) q = some .object := by
  induction q generalizing fs key path with
  | nil => exact view_nil _
  | cons k q ih =>
    obtain ⟨rfl, hq⟩ := List.cons_prefix_cons.1 h
    rw [List.prefix_cons_inj] at h'
    cases path with
    | nil => exact absurd List.nil_prefix h'
    | cons next rest =>
      rw [setAt, view_obj_cons, Json.get?_put, if_pos rfl, Option.bind_some]
      exact ih (fieldsUnder k fs) next rest hq h'

/-- **Setting a value writes it into the view.** -/
theorem view_setAt (fs : Json.Fields) (key : String) (path : List String) (value : Json) :
    view (.obj (setAt fs key path value)) = write (view (.obj fs)) (key :: path) value := by
  funext q
  rw [write]
  split
  · next hbelow =>
    obtain ⟨rest, rfl⟩ := hbelow
    rw [view, read?_append, read?_setAt_self, List.drop_left]
    rfl
  · next habove =>
    split
    · next honTheWay => exact view_setAt_of_prefix fs key path value honTheWay habove
    · next hapart => rw [view, read?_setAt_of_apart fs habove hapart, view]

theorem view_setPath (hp : p ≠ []) (fs : Json.Fields) (value : Json) :
    view (.obj (setPath fs p value).fields) = write (view (.obj fs)) p value := by
  obtain ⟨key, path, rfl⟩ := List.exists_cons_of_ne_nil hp
  exact view_setAt fs key path value

end write

/-! ## Runs of variables -/

/-- What the variables of a section set, with the paths from the root. -/
def settingsIn (key sectionName : String) (vars : List (String × String)) :
    List (List String × Json) :=
  vars.filterMap fun v => (variablePath? sectionName v.1).map fun path => (key :: path, .str v.2)

/-- What variables set, section by section. -/
def settingsOf (ss : List (String × String)) (vars : List (String × String)) :
    List (List String × Json) :=
  ss.flatMap fun s => settingsIn s.1 s.2 vars

/-- A view with values written into it, in order. -/
def writeAll (w : List String → Option Seen) (settings : List (List String × Json)) :
    List String → Option Seen :=
  settings.foldl (fun w a => write w a.1 a.2) w

section runs

variable {fs : Json.Fields} {key sectionName : String} {vars vars' : List (String × String)}

/-- The variables of a section write what they set, where the section can be set. -/
theorem view_applySection (h : CanBeSet fs key) (vars : List (String × String)) :
    view (.obj (applySection key sectionName fs vars).fields) =
      writeAll (view (.obj fs)) (settingsIn key sectionName vars) := by
  induction vars generalizing fs with
  | nil => rfl
  | cons v vars ih =>
    rw [applySection, settingsIn, List.filterMap_cons]
    cases hpath : variablePath? sectionName v.1 with
    | none => exact ih h
    | some path =>
      have hne := variablePath?_ne_nil hpath
      simp only [setInSection_of_canBeSet h hne, Option.map_some]
      rw [ih (canBeSet_setAt fs key hne _), view_setAt]
      rfl

/-- Sections that can be set can be set after other variables. -/
theorem canBeSet_applySection {other : String} (h : CanBeSet fs key) (hother : CanBeSet fs other)
    (vars : List (String × String)) :
    CanBeSet (applySection key sectionName fs vars).fields other := by
  by_cases hkey : key = other
  · subst hkey
    induction vars generalizing fs with
    | nil => exact h
    | cons v vars ih =>
      rw [applySection]
      split
      · exact ih h h
      · next path hpath =>
        have hne := variablePath?_ne_nil hpath
        rw [setInSection_of_canBeSet h hne]
        have hset := canBeSet_setAt fs key hne (.str v.2)
        exact ih hset hset
  · exact (canBeSet_congr (get?_applySection fs vars hkey)).2 hother

/-- **Variables write what they set**, where every section can be set. -/
theorem applySections_of_canBeSet {ss : List (String × String)} (h : ∀ s ∈ ss, CanBeSet fs s.1)
    (vars : List (String × String)) : (applySections vars fs ss).fault = none ∧
      view (.obj (applySections vars fs ss).fields) =
        writeAll (view (.obj fs)) (settingsOf ss vars) := by
  induction ss generalizing fs with
  | nil => exact ⟨rfl, rfl⟩
  | cons s ss ih =>
    obtain ⟨hs, hss⟩ := List.forall_mem_cons.1 h
    have hfault : (applySection s.1 s.2 fs vars).fault = none :=
      (fault_applySection_eq_none_iff fs vars).2 fun _ => hs
    obtain ⟨hrest, hview⟩ := ih fun t ht => canBeSet_applySection hs (hss t ht) vars
    rw [view_applySection hs] at hview
    rw [applySections, hfault, settingsOf, List.flatMap_cons, writeAll, List.foldl_append]
    exact ⟨hrest, hview⟩

theorem settingsOf_perm (h : vars.Perm vars') (ss : List (String × String)) :
    (settingsOf ss vars).Perm (settingsOf ss vars') :=
  List.Perm.flatMap_left ss fun _ _ => h.filterMap _

/-- Values at paths that are apart can be written in any order. -/
theorem writeAll_perm {settings settings' : List (List String × Json)}
    (h : settings.Perm settings') (hapart : (settings.map Prod.fst).Pairwise Apart)
    (w : List String → Option Seen) : writeAll w settings = writeAll w settings' := by
  have hsymm : Std.Symm fun a b : List String × Json => Apart a.1 b.1 := ⟨fun _ _ => Apart.symm⟩
  refine h.foldl_eq' (fun a ha b hb w => ?_) w
  by_cases hab : a = b
  · rw [hab]
  · exact write_comm ((List.pairwise_map.1 hapart).forall ha hb hab) w a.2 b.2

theorem map_fst_settingsIn (key sectionName : String) (vars : List (String × String)) :
    (settingsIn key sectionName vars).map Prod.fst =
      (vars.filterMap fun v => variablePath? sectionName v.1).map (key :: ·) := by
  rw [settingsIn, List.map_filterMap, List.map_filterMap]
  refine List.filterMap_congr fun v _ => ?_
  cases variablePath? sectionName v.1 <;> rfl

/-- The paths of different sections are apart, so it is enough that those of each are. -/
theorem pairwise_settingsOf {ss : List (String × String)} (hss : (ss.map Prod.fst).Nodup)
    (h : ∀ s ∈ ss, (vars.filterMap fun v => variablePath? s.2 v.1).Pairwise Apart) :
    ((settingsOf ss vars).map Prod.fst).Pairwise Apart := by
  simp only [settingsOf, List.map_flatMap, map_fst_settingsIn]
  refine List.pairwise_flatMap.2 ⟨fun s hs => ?_, ?_⟩
  · exact List.pairwise_map.2 ((h s hs).imp fun hapart => hapart.cons s.1)
  · refine (List.pairwise_map.1 hss).imp fun hne p hp q hq => ?_
    obtain ⟨_, -, rfl⟩ := List.mem_map.1 hp
    obtain ⟨_, -, rfl⟩ := List.mem_map.1 hq
    exact apart_of_ne hne _ _

end runs

/-! ## The laws of setting -/

theorem Apart.ne_nil {p q : List String} (h : Apart p q) : p ≠ [] := by
  rintro rfl
  exact h.1 List.nil_prefix

/-- **Settings in any order.**  A value that is set at a path is read there, and what is read along
paths apart from it is as before.  Two values at paths that are apart can be set in either order.
So if every section is an object or missing, and the paths that variables set in each section are
apart from each other, the variables give the same tree in any order. -/
theorem settings_in_any_order (fs : Json.Fields) (p q : List String) (v w : Json)
    (vars vars' : List (String × String)) :
    (p ≠ [] → (setPath fs p v).fault = none ∧
      read? (.obj (setPath fs p v).fields) p = some v ∧
      ∀ r, Apart p r → read? (.obj (setPath fs p v).fields) r = read? (.obj fs) r) ∧
    (Apart p q → SameTree (.obj (setPath (setPath fs p v).fields q w).fields)
      (.obj (setPath (setPath fs q w).fields p v).fields)) ∧
    (vars.Perm vars' → (∀ s ∈ sections, CanBeSet fs s.1) →
      (∀ s ∈ sections, (vars.filterMap fun x => variablePath? s.2 x.1).Pairwise Apart) →
      (applyVariables vars fs).fault = none ∧ (applyVariables vars' fs).fault = none ∧
      SameTree (.obj (applyVariables vars fs).fields) (.obj (applyVariables vars' fs).fields)) := by
  refine ⟨fun hp => ?_, fun hapart => ?_, fun hperm hset hapart => ?_⟩
  · obtain ⟨key, path, rfl⟩ := List.exists_cons_of_ne_nil hp
    exact ⟨rfl, read?_setAt_self fs key path v, fun r hr => read?_setAt_of_apart fs hr.1 hr.2⟩
  · have hp := hapart.ne_nil
    have hq := hapart.symm.ne_nil
    rw [SameTree, view_setPath hq, view_setPath hp, view_setPath hp, view_setPath hq,
      write_comm hapart]
  · obtain ⟨hfault, hview⟩ := applySections_of_canBeSet hset vars
    obtain ⟨hfault', hview'⟩ := applySections_of_canBeSet hset vars'
    refine ⟨hfault, hfault', ?_⟩
    rw [SameTree, applyVariables, applyVariables, hview, hview']
    exact writeAll_perm (settingsOf_perm hperm sections)
      (pairwise_settingsOf (by decide) hapart) _

/-- A configuration with a text where the paths of variables go on. -/
def switchedOff : Json.Fields := [("global", .obj [("logging", .str "off")])]

/-- Variables for both sections, two of them for what is below the text. -/
def switches : List (String × String) :=
  [("ER2CODE_GLOBAL_LOGGING__CONSOLE__FORMAT", "detailed"), ("PATH", "/bin"),
    ("ER2CODE_CODEGEN_NAMESPACE", "Shop"), ("ER2CODE_GLOBAL_LOGGING__FILE__ENABLED", "yes")]

theorem settings_in_any_order_switches :
    switches.Perm switches.reverse ∧ (∀ s ∈ sections, CanBeSet switchedOff s.1) ∧
    (∀ s ∈ sections, (switches.filterMap fun x => variablePath? s.2 x.1).Pairwise Apart) ∧
    (applyVariables switches switchedOff).fault = none ∧
    (applyVariables switches.reverse switchedOff).fault = none ∧
    SameTree (.obj (applyVariables switches switchedOff).fields)
      (.obj (applyVariables switches.reverse switchedOff).fields) ∧
    Apart ["global", "logging", "level"] ["global", "logging", "file", "path"] ∧
    read? (.obj (setPath switchedOff ["global", "logging", "level"] (.int 1)).fields)
      ["global", "logging", "level"] = some (.int 1) ∧
    SameTree
      (.obj (setPath (setPath switchedOff ["global", "logging", "level"] (.int 1)).fields
        ["global", "logging", "file", "path"] .null).fields)
      (.obj (setPath (setPath switchedOff ["global", "logging", "file", "path"] .null).fields
        ["global", "logging", "level"] (.int 1)).fields) := by
  have hperm : switches.Perm switches.reverse := (List.reverse_perm switches).symm
  have hset : ∀ s ∈ sections, CanBeSet switchedOff s.1 := by
    rw [sections, List.forall_mem_cons, List.forall_mem_singleton]
    refine ⟨fun v hv => ?_, fun v hv => ?_⟩
    · cases hv
      exact ⟨_, rfl⟩
    · cases hv
  have hpaths : ∀ s ∈ sections,
      (switches.filterMap fun x => variablePath? s.2 x.1).Pairwise Apart := by decide +kernel
  have hapart : Apart ["global", "logging", "level"] ["global", "logging", "file", "path"] := by
    decide
  obtain ⟨hread, heither, horder⟩ := settings_in_any_order switchedOff
    ["global", "logging", "level"] ["global", "logging", "file", "path"] (.int 1) .null
    switches switches.reverse
  obtain ⟨hfault, hfault', hsame⟩ := horder hperm hset hpaths
  exact ⟨hperm, hset, hpaths, hfault, hfault', hsame, hapart, (hread (by decide)).2.1,
    heither hapart⟩

end Config
end Entigram
