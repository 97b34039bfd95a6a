import Entigram.Naming.Identifier
import Entigram.Proofs.Text.Lower

/-!
# Plurals of plurals

A plural is no singular, but nothing tells the two apart, so a plural can be made plural again.
Which rule it then falls under is seen from its end.  Apart from names that end in `ings`, every
plural ends in `s`.  Most of them get another `es`.  Only a name that ends in `ing` becomes one that
ends in `ings`, which is its own plural (`pluralize_twice`).

The ends are compared in lower case, and what stands before an ending can change its own lower-case
form when the ending is put behind it.  None of the letters in question are touched by that
(`suffix_lowerChars_append_iff`).
-/

set_option autoImplicit false

namespace Entigram
namespace Naming

open Text

/-! ## The rules -/

section rules

variable {cs : List Char}

/-- A text ends in one letter only. -/
theorem eq_of_suffix_concat {front front' l : List Char} {c d : Char} (h : front ++ [c] <:+ l)
    (h' : front' ++ [d] <:+ l) : c = d := by
  have hc : l.getLast? = some c :=
    List.singleton_suffix_iff_getLast?_eq_some.1 ((List.suffix_append front [c]).trans h)
  have hd : l.getLast? = some d :=
    List.singleton_suffix_iff_getLast?_eq_some.1 ((List.suffix_append front' [d]).trans h')
  exact Option.some_inj.1 (hc.symm.trans hd)

theorem suffix_of_reverse_eq_cons {l front : List Char} {c : Char} (h : l.reverse = c :: front) :
    [c] <:+ l := by
  rw [List.reverse_eq_cons_iff.1 h]
  exact List.suffix_append _ _

theorem isPrefixOf_reverse_iff {l : List Char} :
    "sgni".toList.isPrefixOf l.reverse = true ↔ "ings".toList <:+ l := by
  rw [List.isPrefixOf_iff_prefix, ← List.reverse_suffix, List.reverse_reverse]
  rfl

/-- Names that end in `ings` stay. -/
theorem pluralChars_of_ings (h : "ings".toList <:+ lowerChars cs) : pluralChars cs = cs := by
  rw [pluralChars, if_pos (isPrefixOf_reverse_iff.2 h)]

/-- Other names that end in `s` get `es`. -/
theorem pluralChars_of_s (h : ['s'] <:+ lowerChars cs) (hings : ¬"ings".toList <:+ lowerChars cs) :
    pluralChars cs = cs ++ ['e', 's'] := by
  obtain ⟨front, hfront⟩ := h
  have hreverse : (lowerChars cs).reverse = 's' :: front.reverse := by
    rw [← hfront, List.reverse_append]
    rfl
  rw [pluralChars, if_neg (mt isPrefixOf_reverse_iff.1 hings), hreverse]
  rfl

theorem not_ings_of_not_s (h : ¬['s'] <:+ lowerChars cs) : ¬"ings".toList <:+ lowerChars cs :=
  fun hings => h ((List.suffix_append "ing".toList ['s']).trans hings)

/-- All other names get an `s`, or lose a `y` and get `ies`. -/
theorem pluralChars_of_not_s (h : ¬['s'] <:+ lowerChars cs) :
    pluralChars cs = cs ++ ['s'] ∨
      ['y'] <:+ lowerChars cs ∧ pluralChars cs = cs.dropLast ++ ['i', 'e', 's'] := by
  rw [pluralChars, if_neg (mt isPrefixOf_reverse_iff.1 (not_ings_of_not_s h))]
  split
  · next c front hreverse =>
    split
    · exact .inr ⟨suffix_of_reverse_eq_cons hreverse, rfl⟩
    · exact .inl rfl
  · next front hreverse => exact absurd (suffix_of_reverse_eq_cons hreverse) h
  · exact .inl rfl

/-- **The names that are their own plurals.** -/
theorem pluralChars_eq_self_iff : pluralChars cs = cs ↔ "ings".toList <:+ lowerChars cs := by
  refine ⟨fun hself => ?_, pluralChars_of_ings⟩
  by_contra hings
  -- every other rule makes the name longer
  have hlength : (pluralChars cs).length = cs.length := congrArg List.length hself
  by_cases hs : ['s'] <:+ lowerChars cs
  · rw [pluralChars_of_s hs hings] at hlength
    simp at hlength
  · rcases pluralChars_of_not_s hs with h | ⟨-, h⟩
    · rw [h] at hlength
      simp at hlength
    · rw [h, List.length_append, List.length_dropLast, List.length_cons] at hlength
      simp at hlength
      omega

end rules

/-! ## Plurals as names -/

section twice

variable {cs : List Char}

/-- The plural ending `es` is not taken for one that stays. -/
theorem pluralChars_append_es (cs : List Char) :
    pluralChars (cs ++ ['e', 's']) = cs ++ ['e', 's'] ++ ['e', 's'] := by
  have hlower : lowerChars ['e', 's'] = ['e', 's'] := by decide
  have hsplit : lowerChars cs ++ ['e', 's'] = (lowerChars cs ++ ['e']) ++ ['s'] := by simp
  refine pluralChars_of_s ?_ fun hings => ?_
  · rw [suffix_lowerChars_append_iff (by decide), hlower, hsplit]
    exact List.suffix_append _ _
  · rw [suffix_lowerChars_append_iff (by decide), hlower, hsplit] at hings
    have hing : "in".toList ++ ['g'] <:+ lowerChars cs ++ ['e'] :=
      List.suffix_append_self_iff.1 (show "ing".toList ++ ['s'] <:+ _ from hings)
    exact absurd (eq_of_suffix_concat hing List.suffix_rfl) (by decide)

/-- The plural ending `s` gives a name that stays just behind `ing`. -/
theorem pluralChars_append_s (cs : List Char) :
    pluralChars (cs ++ ['s']) =
      if "ing".toList <:+ lowerChars cs then cs ++ ['s'] else cs ++ ['s'] ++ ['e', 's'] := by
  have hlower : lowerChars ['s'] = ['s'] := by decide
  have hings : "ings".toList <:+ lowerChars (cs ++ ['s']) ↔ "ing".toList <:+ lowerChars cs := by
    rw [suffix_lowerChars_append_iff (by decide), hlower]
    show "ing".toList ++ ['s'] <:+ lowerChars cs ++ ['s'] ↔ "ing".toList <:+ lowerChars cs
    exact List.suffix_append_self_iff
  split
  · next hing => exact pluralChars_of_ings (hings.2 hing)
  · next hing =>
    refine pluralChars_of_s ?_ (mt hings.1 hing)
    rw [suffix_lowerChars_append_iff (by decide), hlower]
    exact List.suffix_append _ _

/-- **The plural of a plural.** -/
theorem pluralChars_pluralChars (cs : List Char) :
    pluralChars (pluralChars cs) =
      if "ing".toList <:+ lowerChars cs ∨ "ings".toList <:+ lowerChars cs then pluralChars cs
      else pluralChars cs ++ ['e', 's'] := by
  have hing : ∀ front c, c ≠ 'g' → front ++ [c] <:+ lowerChars cs →
      ¬"in".toList ++ ['g'] <:+ lowerChars cs :=
    fun front c hc hend hing => hc (eq_of_suffix_concat hend hing)
  by_cases hs : ['s'] <:+ lowerChars cs
  · by_cases hings : "ings".toList <:+ lowerChars cs
    · rw [pluralChars_of_ings hings, pluralChars_of_ings hings, if_pos (.inr hings)]
    · rw [pluralChars_of_s hs hings, pluralChars_append_es, if_neg]
      exact not_or.2 ⟨hing [] 's' (by decide) hs, hings⟩
  · have hings := not_ings_of_not_s hs
    rcases pluralChars_of_not_s hs with h | ⟨hy, h⟩
    · rw [h, pluralChars_append_s]
      simp only [hings, or_false]
    · have hsplit : cs.dropLast ++ ['i', 'e', 's'] = (cs.dropLast ++ ['i']) ++ ['e', 's'] := by simp
      rw [h, hsplit, pluralChars_append_es, if_neg]
      exact not_or.2 ⟨hing [] 'y' (by decide) hy, hings⟩

end twice

/-! ## The law of plurals -/

/-- The name ends so, in lower case. -/
def EndsIn (name ending : String) : Prop := ending.toList <:+ (lower name).toList

instance (name ending : String) : Decidable (EndsIn name ending) :=
  inferInstanceAs (Decidable (ending.toList <:+ (lower name).toList))

theorem endsIn_iff {name ending : String} :
    EndsIn name ending ↔ ending.toList <:+ lowerChars name.toList := by
  rw [EndsIn, lower, String.toList_ofList]

/-- **The plural of a plural.**  Making a plural of a plural changes nothing if the name that it was
made of ends in `ing` or `ings`, and adds `es` otherwise.  The names that are plurals of themselves
are those that end in `ings`. -/
theorem pluralize_twice (name : String) :
    (pluralize (pluralize name) =
      if EndsIn name "ing" ∨ EndsIn name "ings" then pluralize name
      else pluralize name ++ "es") ∧
    (pluralize name = name ↔ EndsIn name "ings") := by
  simp only [endsIn_iff]
  constructor
  · rw [pluralize, pluralize, String.toList_ofList, pluralChars_pluralChars]
    split
    · rfl
    · exact String.ofList_append
  · rw [← pluralChars_eq_self_iff, pluralize, ← String.toList_inj, String.toList_ofList]

example : ["STATUS", "wing", "Lodgings", "CITY"].map (fun name => pluralize (pluralize name)) =
    ["STATUSeses", "wings", "Lodgings", "CITieses"] := by decide +kernel

end Naming
end Entigram
