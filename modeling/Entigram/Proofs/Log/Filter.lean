import Mathlib.Data.List.Nodup
import Mathlib.Data.List.Perm.Basic
import Entigram.Log.Sink

/-!
# From which level records are shown

The threshold of a component is that of the longest module name that its name begins with
(`IsLongest`), or the default one if it begins with none (`HasThreshold`).  It is found by a scan of
the modules, sorted by the lengths of their names: the first that fits is the longest, because
those behind it are not longer and those before it do not fit (`isLongest_of_firstMatch`).

Module names are keys, so each of them has one level, and two beginnings of one name that are
equally long are the same.  That is why there is always one threshold and never two
(`hasThreshold_iff`), and why it does not matter in which order the modules are listed, although
sorting keeps that order among equally long names.

A sink has a least level besides.  It is at most every level of a module and the default one, so it
keeps nothing back that a threshold lets through (`least_le_threshold`), and what a sink accepts is
told by the threshold alone (`accepts_iff_threshold`).
-/

set_option autoImplicit false

namespace Entigram
namespace Log

variable {name : String} {default t : Level} {modules : List (String × Level)}
  {m m' : String × Level}

/-! ## The longest name that fits -/

/-- A name begins with the name of a module. -/
def Begins (name : String) (m : String × Level) : Prop := m.1.toList <+: name.toList

instance (name : String) (m : String × Level) : Decidable (Begins name m) :=
  inferInstanceAs (Decidable (m.1.toList <+: name.toList))

/-- The entry of the longest module name that a name begins with. -/
structure IsLongest (modules : List (String × Level)) (name : String) (m : String × Level) :
    Prop where
  mem : m ∈ modules
  begins : Begins name m
  longest : ∀ m' ∈ modules, Begins name m' → m'.1.length ≤ m.1.length

theorem startsWith_iff : Text.startsWith name m.1 = true ↔ Begins name m :=
  List.isPrefixOf_iff_prefix

theorem mem_longestFirst : m ∈ longestFirst modules ↔ m ∈ modules := List.mem_mergeSort

/-- Names that come later are not longer. -/
theorem pairwise_longestFirst (modules : List (String × Level)) :
    (longestFirst modules).Pairwise fun a b => b.1.length ≤ a.1.length := by
  have hsorted : (longestFirst modules).Pairwise
      fun a b => decide (b.1.length ≤ a.1.length) = true := by
    refine List.pairwise_mergeSort (fun a b c hab hbc => ?_) (fun a b => ?_) modules
    · exact decide_eq_true (Nat.le_trans (of_decide_eq_true hbc) (of_decide_eq_true hab))
    · simp [Nat.le_total]
  exact hsorted.imp of_decide_eq_true

/-- Nothing is found just if no module name fits. -/
theorem firstMatch_eq_none_iff :
    firstMatch modules name = none ↔ ∀ m ∈ modules, ¬Begins name m := by
  simp only [firstMatch, List.find?_eq_none, mem_longestFirst, startsWith_iff]

/-- **What is found first** fits, and is the longest that does. -/
theorem isLongest_of_firstMatch (h : firstMatch modules name = some m) :
    IsLongest modules name m := by
  obtain ⟨hfits, before, behind, hsplit, hbefore⟩ := List.find?_eq_some_iff_append.1 h
  have hmem : m ∈ longestFirst modules := by simp [hsplit]
  refine ⟨mem_longestFirst.1 hmem, startsWith_iff.1 hfits, fun m' hm' hbegins => ?_⟩
  rw [← mem_longestFirst, hsplit, List.mem_append, List.mem_cons] at hm'
  rcases hm' with hearlier | rfl | hlater
  · have hnot := hbefore m' hearlier
    rw [startsWith_iff.2 hbegins] at hnot
    cases hnot
  · exact Nat.le_refl _
  · have hsorted := pairwise_longestFirst modules
    rw [hsplit] at hsorted
    exact List.rel_of_pairwise_cons (List.pairwise_append.1 hsorted).2.1 hlater

/-- Of module names that are keys only one is the longest. -/
theorem IsLongest.eq (hkeys : (modules.map Prod.fst).Nodup) (h : IsLongest modules name m)
    (h' : IsLongest modules name m') : m = m' := by
  have hlength : m.1.length = m'.1.length :=
    Nat.le_antisymm (h'.longest m h.mem h.begins) (h.longest m' h'.mem h'.begins)
  have hname : m.1.toList = m'.1.toList :=
    (List.prefix_of_prefix_length_le h.begins h'.begins (Nat.le_of_eq hlength)).eq_of_length
      hlength
  exact List.inj_on_of_nodup_map hkeys h.mem h'.mem (String.toList_inj.1 hname)

/-! ## Thresholds -/

/-- The level from which records of a component are shown: that of the longest module name that its
name begins with, or else the default one. -/
inductive HasThreshold (default : Level) (modules : List (String × Level)) (name : String) :
    Level → Prop
  | ofModule {m : String × Level} (h : IsLongest modules name m) :
      HasThreshold default modules name m.2
  | ofDefault (h : ∀ m ∈ modules, ¬Begins name m) : HasThreshold default modules name default

theorem hasThreshold_threshold (default : Level) (modules : List (String × Level))
    (name : String) : HasThreshold default modules name (threshold default modules name) := by
  rw [threshold]
  split
  · next m hm => exact .ofModule (isLongest_of_firstMatch hm)
  · next hnone => exact .ofDefault (firstMatch_eq_none_iff.1 hnone)

/-- **There is one threshold.** -/
theorem hasThreshold_iff (hkeys : (modules.map Prod.fst).Nodup) :
    HasThreshold default modules name t ↔ threshold default modules name = t := by
  constructor
  · intro h
    rw [threshold]
    cases h with
    | ofModule hlongest =>
      split
      · next found hfound => rw [(isLongest_of_firstMatch hfound).eq hkeys hlongest]
      · next hnone =>
        exact absurd hlongest.begins (firstMatch_eq_none_iff.1 hnone _ hlongest.mem)
    | ofDefault hnone => rw [firstMatch_eq_none_iff.2 hnone]
  · rintro rfl
    exact hasThreshold_threshold default modules name

theorem hasThreshold_perm {modules' : List (String × Level)} (h : modules'.Perm modules) :
    HasThreshold default modules' name t → HasThreshold default modules name t := by
  intro ht
  cases ht with
  | ofModule hm =>
    exact .ofModule ⟨h.mem_iff.1 hm.mem, hm.begins,
      fun m' hm' => hm.longest m' (h.mem_iff.2 hm')⟩
  | ofDefault hnone => exact .ofDefault fun m hm => hnone m (h.mem_iff.2 hm)

/-! ## The least level -/

/-- The least level is at most that of every module. -/
theorem least_le_of_mem (default : Level) (hm : m ∈ modules) :
    least default modules ≤ m.2.number := by
  rw [least]
  generalize default.number = n
  induction modules generalizing n with
  | nil => cases hm
  | cons d rest ih =>
    rw [List.foldl_cons]
    rcases List.mem_cons.1 hm with rfl | hm
    · exact Nat.le_trans (foldl_min_le rest _) (Nat.min_le_right _ _)
    · exact ih hm _

/-- **The least level is at most every threshold.** -/
theorem least_le_threshold (h : HasThreshold default modules name t) :
    least default modules ≤ t.number := by
  cases h with
  | ofModule hm => exact least_le_of_mem default hm.mem
  | ofDefault _ => exact least_le_default default modules

/-! ## What the console accepts -/

/-- **What the console accepts.**  Whatever the levels of modules are, in whatever order, every
component has one threshold, and a record of it is accepted just if its level reaches that.  The
least level of the sink keeps nothing back that reaches the threshold. -/
theorem accepts_iff_threshold {l : Config.Logging} (hkeys : (l.modules.map Prod.fst).Nodup)
    (level : Level) (verbose : Bool) (component : Option String) (number : Int) :
    (∃! t, HasThreshold level l.modules (component.getD "") t) ∧
    (∀ t, HasThreshold level l.modules (component.getD "") t →
      ((ConsoleSink.ofSettings level verbose l).accepts component number = true ↔
        (t.number : Int) ≤ number)) ∧
    (passes level l.modules component number = true → (least level l.modules : Int) ≤ number) ∧
    (∀ modules', modules'.Perm l.modules →
      (ConsoleSink.ofSettings level verbose { l with modules := modules' }).accepts component
          number = (ConsoleSink.ofSettings level verbose l).accepts component number) := by
  have hpasses : ∀ modules' : List (String × Level),
      passes level modules' component number = true →
        (least level modules' : Int) ≤ number := by
    intro modules' h
    exact Int.le_trans (Int.ofNat_le.2 (least_le_threshold (hasThreshold_threshold _ _ _)))
      (of_decide_eq_true h)
  have haccepts : ∀ modules' : List (String × Level),
      (ConsoleSink.ofSettings level verbose { l with modules := modules' }).accepts component
        number = passes level modules' component number := by
    intro modules'
    exact Bool.and_eq_right_iff_imp.2 fun h => decide_eq_true (hpasses modules' h)
  refine ⟨⟨_, hasThreshold_threshold _ _ _, fun t ht => ((hasThreshold_iff hkeys).1 ht).symm⟩,
    fun t ht => ?_, hpasses l.modules, fun modules' hperm => ?_⟩
  · rw [haccepts l.modules, passes, decide_eq_true_iff, (hasThreshold_iff hkeys).1 ht]
  · rw [haccepts modules', haccepts l.modules, passes, passes,
      (hasThreshold_iff hkeys).1 (hasThreshold_perm hperm (hasThreshold_threshold _ _ _))]

/-- Levels for a part of the program and for a part of that. -/
def schemaQuiet : Config.Logging :=
  { modules := [("er2code", .debug), ("er2code.schema", .error)] }

theorem accepts_iff_threshold_schemaQuiet :
    (schemaQuiet.modules.map Prod.fst).Nodup ∧
    HasThreshold .info schemaQuiet.modules "er2code.schema.parser" .error ∧
    HasThreshold .info schemaQuiet.modules "" .info ∧
    (ConsoleSink.ofSettings .info false schemaQuiet).accepts (some "er2code.schema.parser")
      Level.warning.number = false ∧
    (ConsoleSink.ofSettings .info false schemaQuiet).accepts none Level.info.number = true := by
  have hkeys : (schemaQuiet.modules.map Prod.fst).Nodup := by decide
  have hlongest : IsLongest schemaQuiet.modules "er2code.schema.parser"
      ("er2code.schema", .error) := {
    mem := by decide
    begins := by decide
    longest := by decide }
  have hparser : HasThreshold .info schemaQuiet.modules "er2code.schema.parser" .error :=
    .ofModule hlongest
  have hnameless : HasThreshold .info schemaQuiet.modules "" .info := .ofDefault (by decide)
  refine ⟨hkeys, hparser, hnameless, ?_, ?_⟩
  · rw [Bool.eq_false_iff, Ne, (accepts_iff_threshold hkeys .info false
      (some "er2code.schema.parser") _).2.1 _ hparser]
    decide
  · exact ((accepts_iff_threshold hkeys .info false none _).2.1 _ hnameless).2 (by decide)

end Log
end Entigram
