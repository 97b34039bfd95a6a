import Entigram.Naming.Identifier
import Entigram.Proofs.Naming.Fresh
import Entigram.Proofs.Text.Case
import Entigram.Proofs.Text.Pieces

/-!
# The characters of names

A name is made from a name of the diagram by cutting it at spaces, among others, and by changing the
case of the pieces; a number may follow, or a plural ending.  So if there is no line break in the
diagram's name, there is neither a space nor a line break in what it becomes (`avoids_pascalCase`,
`avoids_pluralize`, `avoids_claimAll`).
-/

set_option autoImplicit false

namespace Entigram

/-- None of the characters of the text is one of these. -/
def Text.Avoids (p : Char → Bool) (s : String) : Prop := ∀ c ∈ s.toList, p c = false

instance (p : Char → Bool) (s : String) : Decidable (Text.Avoids p s) :=
  inferInstanceAs (Decidable (∀ c ∈ s.toList, p c = false))

theorem Text.Avoids.mono {p q : Char → Bool} {s : String} (h : Text.Avoids p s)
    (hpq : ∀ c, p c = false → q c = false) : Text.Avoids q s := fun c hc => hpq c (h c hc)

namespace Naming

open Text

/-- A diagram's name becomes an identifier without spaces and line breaks. -/
theorem avoids_pascalCase {name : String} (h : Avoids isLineBreak name) :
    Avoids isSpaceOrLineBreak (pascalCase name) := by
  intro c hc
  rw [pascalCase, String.toList_ofList] at hc
  obtain ⟨piece, hpiece, hc⟩ := List.mem_flatMap.1 hc
  have hinner : ∀ d ∈ trim piece, isSpaceOrLineBreak d = false := by
    intro d hd
    obtain ⟨hmem, hsep⟩ := mem_of_mem_splitWhere hpiece (mem_of_mem_trimWhile hd)
    have hspace : d ≠ ' ' := by
      rintro rfl
      exact absurd hsep (by decide)
    rw [isSpaceOrLineBreak, h d hmem, decide_eq_false hspace, Bool.false_or]
  generalize trim piece = cs at hc hinner
  cases cs with
  | nil => cases hc
  | cons d cs =>
    obtain ⟨hd, hcs⟩ := List.forall_mem_cons.1 hinner
    rcases List.mem_append.1 hc with hc | hc
    · exact avoids_upperChar hd hc
    · exact avoids_lowerChars hcs hc

/-- A plural ending adds letters only. -/
theorem mem_pluralChars {name : List Char} {c : Char} (h : c ∈ pluralChars name) :
    c ∈ name ∨ c ∈ ['i', 'e', 's'] := by
  rw [pluralChars] at h
  split at h
  · exact .inl h
  · split at h
    · split at h
      · exact (List.mem_append.1 h).imp_left (List.dropLast_subset name ·)
      · exact (List.mem_append.1 h).imp_right (by simp +contextual)
    · exact (List.mem_append.1 h).imp_right (by simp +contextual)
    · exact (List.mem_append.1 h).imp_right (by simp +contextual)

theorem avoids_pluralize {name : String} (h : Avoids isSpaceOrLineBreak name) :
    Avoids isSpaceOrLineBreak (pluralize name) := by
  have hletters : ∀ c ∈ ['i', 'e', 's'], isSpaceOrLineBreak c = false := by decide
  intro c hc
  rw [pluralize, String.toList_ofList] at hc
  exact (mem_pluralChars hc).elim (h c) (hletters c)

namespace UsedNames

/-- A number adds digits only. -/
theorem avoids_numbered {base : String} (h : Avoids isSpaceOrLineBreak base) (k : Nat) :
    Avoids isSpaceOrLineBreak (numbered base k) := by
  intro c hc
  rw [numbered, String.toList_append, Nat.toString_eq_ofList_toDigits, String.toList_ofList,
    List.mem_append] at hc
  rcases hc with hc | hc
  · exact h c hc
  · have hdigit : 48 ≤ c.toNat ∧ c.toNat ≤ 57 := Char.isDigit_iff_toNat.1
      (Nat.isDigit_of_mem_toDigits (by decide) (by decide) hc)
    rw [← Char.ofNat_toNat c]
    exact isSpaceOrLineBreak_ofNat (by omega) (by omega) (by omega)

theorem avoids_freeName (u : UsedNames) {base : String} (h : Avoids isSpaceOrLineBreak base) :
    Avoids isSpaceOrLineBreak (u.freeName base) := by
  rw [freeName]
  split
  · exact avoids_numbered h _
  · exact h

/-- Claimed names have no spaces and line breaks if the wanted ones have none. -/
theorem avoids_claimAll (u : UsedNames) {bases : List String}
    (h : ∀ base ∈ bases, Avoids isSpaceOrLineBreak base) :
    ∀ name ∈ (u.claimAll bases).1, Avoids isSpaceOrLineBreak name := by
  induction bases generalizing u with
  | nil => exact fun name hname => absurd hname List.not_mem_nil
  | cons base bases ih =>
    obtain ⟨hbase, hbases⟩ := List.forall_mem_cons.1 h
    rw [claimAll_cons, List.forall_mem_cons]
    exact ⟨avoids_freeName u hbase, ih _ hbases⟩

end UsedNames
end Naming
end Entigram
