import Mathlib.Data.List.Basic
import Entigram.Text.Blank
import Entigram.Text.Case

/-!
# Case in ASCII

For texts of ASCII the case mappings do what one expects of them: each changes every letter for
itself, so folding and lower case are the same (`foldChars_of_ascii`, `lowerChars_of_ascii`), and
upper case does not see the case that a letter had (`upperChar_toLower`).  No letter is white space,
in either case (`isBlank_toLower`).
-/

set_option autoImplicit false

namespace Entigram
namespace Text

/-- Is the text made of ASCII alone? -/
def IsAscii (cs : List Char) : Prop := ∀ c ∈ cs, c.toNat < 0x80

instance (cs : List Char) : Decidable (IsAscii cs) :=
  decidable_of_iff (cs.all fun c => decide (c.toNat < 0x80)) (by simp [IsAscii])

variable {c : Char} {cs : List Char}

/-- What holds of the first 128 characters holds of ASCII. -/
theorem of_ascii {P : Char → Prop} (h : ∀ n < 0x80, P (Char.ofNat n)) (hc : c.toNat < 0x80) :
    P c := by
  have hn := h c.toNat hc
  rwa [Char.ofNat_toNat] at hn

/-- The rule for the letters of ASCII leaves everything else alone. -/
theorem toLower_of_not_ascii (hc : ¬c.toNat < 0x80) : c.toLower = c := by
  refine dif_neg fun hupper => hc ?_
  have hZ : c.toNat ≤ 90 := UInt32.le_iff_toNat_le.1 hupper.2
  omega

/-- What does not see the case of ASCII letters does not see this rule. -/
theorem apply_toLower {α : Type} (f : Char → α)
    (h : ∀ n < 0x80, f (Char.ofNat n).toLower = f (Char.ofNat n)) (c : Char) :
    f c.toLower = f c := by
  by_cases hc : c.toNat < 0x80
  · exact of_ascii (P := fun c => f c.toLower = f c) h hc
  · rw [toLower_of_not_ascii hc]

/-- A letter is no white space, in either case. -/
theorem isBlank_toLower (c : Char) : isBlank c.toLower = isBlank c :=
  apply_toLower isBlank (by decide +kernel) c

theorem toNat_toLower_lt (hc : c.toNat < 0x80) : c.toLower.toNat < 0x80 :=
  of_ascii (P := fun c => c.toLower.toNat < 0x80) (by decide +kernel) hc

/-- Upper case does not see the case that a letter had. -/
theorem upperChar_toLower (hc : c.toNat < 0x80) : upperChar c.toLower = upperChar c := by
  rw [upperChar, upperChar, if_pos hc, if_pos (toNat_toLower_lt hc)]
  exact of_ascii (P := fun c => [c.toLower.toUpper] = [c.toUpper]) (by decide +kernel) hc

theorem toLower_toLower (c : Char) : c.toLower.toLower = c.toLower :=
  apply_toLower Char.toLower (by decide +kernel) c

/-- There is no sigma in ASCII, so lower case goes letter by letter. -/
theorem lowerChars_of_ascii (h : IsAscii cs) : lowerChars cs = cs.map Char.toLower := by
  have hafter : ∀ before, lowerAfter before cs = cs.map Char.toLower := by
    induction cs with
    | nil => exact fun before => rfl
    | cons c cs ih =>
      obtain ⟨hc, hcs⟩ := List.forall_mem_cons.1 h
      have hsigma : c ≠ 'Σ' := by
        rintro rfl
        exact absurd hc (by decide)
      intro before
      rw [lowerAfter, if_neg hsigma, lowerChar, if_pos hc, ih hcs]
      rfl
  exact hafter []

theorem foldChars_of_ascii (h : IsAscii cs) : foldChars cs = cs.map Char.toLower := by
  have hfold : ∀ c ∈ cs, foldChar c = [c.toLower] := fun c hc => if_pos (h c hc)
  rw [foldChars, List.flatMap_congr hfold, ← List.map_eq_flatMap]

/-- The case of letters is lost in lower case. -/
theorem lowerChars_map_toLower (h : IsAscii cs) :
    lowerChars (cs.map Char.toLower) = lowerChars cs := by
  have hlower : IsAscii (cs.map Char.toLower) := by
    intro c hc
    obtain ⟨d, hd, rfl⟩ := List.mem_map.1 hc
    exact toNat_toLower_lt (h d hd)
  rw [lowerChars_of_ascii hlower, lowerChars_of_ascii h, List.map_map]
  exact List.map_congr_left fun c _ => toLower_toLower c

end Text
end Entigram
