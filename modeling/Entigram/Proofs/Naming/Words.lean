import Entigram.Naming.Identifier
import Entigram.Proofs.Text.Ascii
import Entigram.Proofs.Text.Pieces
import Entigram.Schema

/-!
# Identifiers and their words

A separator in a diagram's name does nothing but divide it: what stands on either side of it becomes
an identifier by itself, and the two are joined (`pascalChars_append_cons`).  White space around a
word is taken off, and what is empty then leaves nothing behind, so an identifier is made of the
words of the name and of nothing else (`pascalChars_eq_flatMap`): it does not matter where further
separators stand, how many there are and which.

Nor does the case of letters matter, as every word is written in a case of its own.  This holds for
names of ASCII, where a letter is changed into one letter and without regard to its neighbours
(`pascalChars_map_toLower`).
-/

set_option autoImplicit false

namespace Entigram
namespace Naming

open Text

/-! ## Separators -/

/-- The words of a diagram's name: what stands between the separators, unless nothing does. -/
def nameWords (name : List Char) : List (List Char) :=
  (splitWhere isSeparator name).filter fun piece => !piece.isEmpty

variable {c : Char} {cs : List Char}

/-- **A separator divides a name.** -/
theorem pascalChars_append_cons (h : isSeparator c = true) (before after : List Char) :
    pascalChars (before ++ c :: after) = pascalChars before ++ pascalChars after := by
  rw [pascalChars, splitWhere_append_cons h, List.flatMap_append]
  rfl

/-- Separators in front of a name are as good as none. -/
theorem pascalChars_separators_append {seps : List Char} (h : ∀ c ∈ seps, isSeparator c = true)
    (name : List Char) : pascalChars (seps ++ name) = pascalChars name := by
  induction seps with
  | nil => rfl
  | cons c seps ih =>
    obtain ⟨hc, hseps⟩ := List.forall_mem_cons.1 h
    exact (pascalChars_append_cons hc [] (seps ++ name)).trans (ih hseps)

/-- And so are separators behind it. -/
theorem pascalChars_append_separators {seps : List Char} (h : ∀ c ∈ seps, isSeparator c = true)
    (name : List Char) : pascalChars (name ++ seps) = pascalChars name := by
  cases seps with
  | nil => rw [List.append_nil]
  | cons c seps =>
    obtain ⟨hc, hseps⟩ := List.forall_mem_cons.1 h
    have hnothing : pascalChars seps = [] := by
      rw [← List.append_nil seps, pascalChars_separators_append hseps]
      rfl
    rw [pascalChars_append_cons hc, hnothing, List.append_nil]

/-- Any number of separators divides a name as one does. -/
theorem pascalChars_append_append {seps : List Char} (hne : seps ≠ [])
    (h : ∀ c ∈ seps, isSeparator c = true) (before after : List Char) :
    pascalChars (before ++ seps ++ after) = pascalChars before ++ pascalChars after := by
  cases seps with
  | nil => contradiction
  | cons c seps =>
    obtain ⟨hc, hseps⟩ := List.forall_mem_cons.1 h
    rw [List.append_assoc, List.cons_append, pascalChars_append_cons hc,
      pascalChars_separators_append hseps]

/-- **An identifier is made of the words of the name.** -/
theorem pascalChars_eq_flatMap (name : List Char) :
    pascalChars name = (nameWords name).flatMap fun word => capitalize (trim word) := by
  rw [pascalChars, nameWords]
  induction splitWhere isSeparator name with
  | nil => rfl
  | cons piece pieces ih =>
    rw [List.flatMap_cons, List.filter_cons, ih]
    cases piece with
    | nil => rfl
    | cons c piece => rfl

/-! ## Case -/

/-- A separator is no letter, in either case. -/
theorem isSeparator_toLower (c : Char) : isSeparator c.toLower = isSeparator c :=
  apply_toLower isSeparator (by decide +kernel) c

/-- A word is written in a case of its own. -/
theorem capitalize_map_toLower (h : IsAscii cs) :
    capitalize (cs.map Char.toLower) = capitalize cs := by
  cases cs with
  | nil => rfl
  | cons c cs =>
    obtain ⟨hc, hcs⟩ := List.forall_mem_cons.1 h
    rw [List.map_cons, capitalize, capitalize, upperChar_toLower hc, lowerChars_map_toLower hcs]

/-- **The case of a name is lost in its identifier**, if the name is made of ASCII. -/
theorem pascalChars_map_toLower (h : IsAscii cs) :
    pascalChars (cs.map Char.toLower) = pascalChars cs := by
  have hsame : isSeparator ∘ Char.toLower = isSeparator := funext isSeparator_toLower
  have hblank : isBlank ∘ Char.toLower = isBlank := funext isBlank_toLower
  rw [pascalChars, splitWhere_map, hsame, List.flatMap_map, pascalChars]
  refine List.flatMap_congr fun piece hpiece => ?_
  rw [trim, trimWhile_map, hblank]
  exact capitalize_map_toLower fun c hc =>
    h c (mem_of_mem_splitWhere hpiece (mem_of_mem_trimWhile hc)).1

/-! ## The law of identifiers -/

theorem pascalCase_eq_append {a b name : String}
    (h : pascalChars name.toList = pascalChars a.toList ++ pascalChars b.toList) :
    pascalCase name = pascalCase a ++ pascalCase b := by
  rw [pascalCase, h, String.ofList_append]
  rfl

theorem pascalCase_congr {a b : String} (h : pascalChars a.toList = pascalChars b.toList) :
    pascalCase a = pascalCase b := congrArg String.ofList h

/-- **Separators only divide, and case is no matter.**  For all names `a` and `b`, the identifier of
`a`, a separator and `b` is that of `a` followed by that of `b`, whichever the separator is.  So
separators in front of a name or behind it are as good as none, any number of them in a row is as
good as any other one of them, and names with the same words have the same identifier.  Names of
ASCII have the same identifier if they are the same up to case. -/
theorem separators_only_divide (a b : String) :
    (∀ c, isSeparator c = true →
      pascalCase (a ++ String.singleton c ++ b) = pascalCase a ++ pascalCase b) ∧
    (∀ seps : String, (∀ c ∈ seps.toList, isSeparator c = true) →
      pascalCase (seps ++ a) = pascalCase a ∧ pascalCase (a ++ seps) = pascalCase a ∧
        (seps ≠ "" → pascalCase (a ++ seps ++ b) = pascalCase a ++ pascalCase b)) ∧
    (nameWords a.toList = nameWords b.toList → pascalCase a = pascalCase b) ∧
    (IsAscii a.toList → IsAscii b.toList → sameName a b = true → pascalCase a = pascalCase b) := by
  refine ⟨fun c hc => ?_, fun seps hseps => ⟨?_, ?_, fun hne => ?_⟩, fun hwords => ?_,
    fun ha hb hname => ?_⟩
  · refine pascalCase_eq_append ?_
    rw [String.toList_append, String.toList_append, String.toList_singleton, List.append_assoc,
      List.singleton_append, pascalChars_append_cons hc]
  · refine pascalCase_congr ?_
    rw [String.toList_append, pascalChars_separators_append hseps]
  · refine pascalCase_congr ?_
    rw [String.toList_append, pascalChars_append_separators hseps]
  · refine pascalCase_eq_append ?_
    rw [String.toList_append, String.toList_append,
      pascalChars_append_append (fun hnil => hne (String.toList_eq_nil_iff.1 hnil)) hseps]
  · refine pascalCase_congr ?_
    rw [pascalChars_eq_flatMap, pascalChars_eq_flatMap, hwords]
  · refine pascalCase_congr ?_
    have hfold : a.toList.map Char.toLower = b.toList.map Char.toLower := by
      rw [← foldChars_of_ascii ha, ← foldChars_of_ascii hb]
      exact String.ofList_inj.1 (sameName_iff.1 hname)
    rw [← pascalChars_map_toLower ha, hfold, pascalChars_map_toLower hb]

theorem separators_only_divide_parts :
    isSeparator '-' = true ∧
    pascalCase ("X_PART" ++ String.singleton '-' ++ "\tno ") = "XPart" ++ "No" ∧
    (∀ c ∈ "_- ".toList, isSeparator c = true) ∧
    pascalCase ("X_PART" ++ "_- " ++ "\tno ") = "XPart" ++ "No" ∧
    nameWords "_part \t-no-".toList = nameWords "part-\t_no".toList ∧
    pascalCase "_part \t-no-" = pascalCase "part-\t_no" ∧
    IsAscii "x-Part".toList ∧ IsAscii "X-PART".toList ∧ sameName "x-Part" "X-PART" = true ∧
    pascalCase "x-Part" = pascalCase "X-PART" := by
  have hdash : isSeparator '-' = true := by decide
  have hseps : ∀ c ∈ "_- ".toList, isSeparator c = true := List.all_eq_true.1 (by decide)
  have hwords : nameWords "_part \t-no-".toList = nameWords "part-\t_no".toList := by decide
  have hx : IsAscii "x-Part".toList := by decide +kernel
  have hX : IsAscii "X-PART".toList := by decide +kernel
  have hname : sameName "x-Part" "X-PART" = true := by decide +kernel
  have hparts : pascalCase "X_PART" ++ pascalCase "\tno " = "XPart" ++ "No" := by decide +kernel
  obtain ⟨hone, hany, -, -⟩ := separators_only_divide "X_PART" "\tno "
  obtain ⟨-, -, hmany⟩ := hany "_- " hseps
  obtain ⟨-, -, hsame, -⟩ := separators_only_divide "_part \t-no-" "part-\t_no"
  obtain ⟨-, -, -, hcase⟩ := separators_only_divide "x-Part" "X-PART"
  exact ⟨hdash, (hone '-' hdash).trans hparts, hseps, (hmany (by decide)).trans hparts, hwords,
    hsame hwords, hx, hX, hname, hcase hx hX hname⟩

end Naming
end Entigram
