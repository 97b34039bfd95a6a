import Mathlib.Data.List.Basic
import Entigram.Text.Case

/-!
# Lower case of a longer text

Lower case looks at the neighbours of a capital sigma, so the lower-case form of a text is not made
of those of its parts.  But only the form of the sigma depends on the neighbours: with both small
sigmas written alike, lower case goes character by character (`map_oneSigma_lowerAfter`).  So what
has no sigma in it ends a text in lower case just if it ends the forms of the parts, one behind the
other (`suffix_lowerChars_append_iff`).
-/

set_option autoImplicit false

namespace Entigram
namespace Text

/-- Writes both small sigmas alike. -/
def oneSigma (c : Char) : Char := if c = 'ς' then 'σ' else c

/-- There is no small sigma in the text, in either form. -/
def Sigmaless (cs : List Char) : Prop := ∀ c ∈ cs, c ≠ 'σ' ∧ c ≠ 'ς'

instance (cs : List Char) : Decidable (Sigmaless cs) :=
  decidable_of_iff (cs.all fun c => decide (c ≠ 'σ' ∧ c ≠ 'ς')) (by simp [Sigmaless])

theorem oneSigma_of_ne {c : Char} (h : c ≠ 'ς') : oneSigma c = c := if_neg h

theorem eq_of_oneSigma_ne {c : Char} (h : oneSigma c ≠ 'σ') : oneSigma c = c := by
  refine oneSigma_of_ne ?_
  rintro rfl
  exact h rfl

/-- Where there is no sigma, it does not matter how sigmas are written. -/
theorem suffix_map_oneSigma_iff {ending cs : List Char} (h : Sigmaless ending) :
    ending <:+ cs.map oneSigma ↔ ending <:+ cs := by
  constructor
  · intro hending
    obtain ⟨l, hl, rfl⟩ := List.suffix_map_iff.1 hending
    have hsame : l.map oneSigma = l :=
      (List.map_congr_left fun c hc =>
        eq_of_oneSigma_ne (h _ (List.mem_map_of_mem hc)).1).trans (List.map_id l)
    rwa [hsame]
  · intro hending
    have hsame : ending.map oneSigma = ending :=
      (List.map_congr_left fun c hc => oneSigma_of_ne (h c hc).2).trans (List.map_id ending)
    rw [← hsame]
    exact hending.map oneSigma

/-- **With one sigma, lower case goes character by character.** -/
theorem map_oneSigma_lowerAfter (before cs : List Char) :
    (lowerAfter before cs).map oneSigma = cs.flatMap fun c => (lowerChar c).map oneSigma := by
  induction cs generalizing before with
  | nil => rfl
  | cons c cs ih =>
    have hfirst : (if c = 'Σ' then [if isFinalSigma before cs then 'ς' else 'σ']
        else lowerChar c).map oneSigma = (lowerChar c).map oneSigma := by
      split
      · next hsigma =>
        subst hsigma
        have hsmall : (lowerChar 'Σ').map oneSigma = ['σ'] := by decide +kernel
        rw [hsmall]
        split <;> rfl
      · rfl
    rw [lowerAfter, List.map_append, hfirst, ih, List.flatMap_cons]

theorem map_oneSigma_lowerChars_append (cs ds : List Char) :
    (lowerChars (cs ++ ds)).map oneSigma =
      (lowerChars cs ++ lowerChars ds).map oneSigma := by
  rw [List.map_append, lowerChars, lowerChars, lowerChars, map_oneSigma_lowerAfter,
    map_oneSigma_lowerAfter, map_oneSigma_lowerAfter, List.flatMap_append]

/-- **What a longer text ends in, in lower case.** -/
theorem suffix_lowerChars_append_iff {ending : List Char} (h : Sigmaless ending)
    (cs ds : List Char) :
    ending <:+ lowerChars (cs ++ ds) ↔ ending <:+ lowerChars cs ++ lowerChars ds := by
  rw [← suffix_map_oneSigma_iff h, map_oneSigma_lowerChars_append, suffix_map_oneSigma_iff h]

end Text
end Entigram
