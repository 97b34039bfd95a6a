/-!
# Finding a text inside another, and cutting

`occurs` looks for a pattern anywhere in a text.  `splitWhere` cuts a text at single characters and
`splitPairs` at doubled ones, from left to right and without overlaps.
-/

set_option autoImplicit false

namespace Entigram
namespace Text

/-- Does the pattern stand somewhere in the text? -/
def occurs (pattern : List Char) : List Char → Bool
  | [] => pattern.isEmpty
  | c :: cs => pattern.isPrefixOf (c :: cs) || occurs pattern cs

/-- Does the pattern stand somewhere in the string? -/
def hasInfix (pattern s : String) : Bool := occurs pattern.toList s.toList

/-- Does the string begin with the other? -/
def startsWith (s start : String) : Bool := start.toList.isPrefixOf s.toList

/-- A text with the pattern's occurrence is the pattern with something on either side. -/
theorem occurs_iff {pattern text : List Char} :
    occurs pattern text = true ↔ ∃ before after, text = before ++ pattern ++ after := by
  induction text with
  | nil =>
    simp [occurs]
  | cons c cs ih =>
    simp only [occurs, Bool.or_eq_true, List.isPrefixOf_iff_prefix, ih]
    constructor
    · rintro (⟨t, ht⟩ | ⟨b, a, h⟩)
      · exact ⟨[], t, by simp [ht]⟩
      · exact ⟨c :: b, a, by simp [h]⟩
    · rintro ⟨b, a, h⟩
      cases b with
      | nil => exact .inl ⟨a, by simpa using h.symm⟩
      | cons d b =>
        simp only [List.cons_append, List.cons.injEq] at h
        exact .inr ⟨b, a, h.2⟩

/-! ## Cutting -/

/-- Puts a character in front of the first piece of a list. -/
def prepend (c : Char) : List (List Char) → List (List Char)
  | [] => [[c]]
  | p :: ps => (c :: p) :: ps

/-- The pieces between the characters for which `p` holds, empty ones included. -/
def splitWhere (p : Char → Bool) : List Char → List (List Char)
  | [] => [[]]
  | c :: cs => if p c then [] :: splitWhere p cs else prepend c (splitWhere p cs)

/-- The pieces between two characters `d` in a row.  Of three in a row the first two cut, and the
third stays with the piece after it. -/
def splitPairs (d : Char) : List Char → List (List Char)
  | [] => [[]]
  | [c] => [[c]]
  | c :: c' :: cs =>
    if c = d ∧ c' = d then [] :: splitPairs d cs else prepend c (splitPairs d (c' :: cs))

end Text
end Entigram
