import Entigram.Proofs.Text.Ascii

/-!
# What the case mappings produce

Changing the case of a character never gives a space or a line break, unless it was one
(`avoids_upperChar`, `avoids_lowerChar`).  For ASCII this is seen character by character.  Outside
of it the tables decide, and all that they produce lies in a few ranges of code points
(`CaseTable.mem_image`), each of them between two neighbours among the characters that are to be
avoided.
-/

set_option autoImplicit false

namespace Entigram

/-- What is found in a table is in the table. -/
theorem Ascending.mem_of_last? {α : Type} {key : α → Nat} {table : Array α} {n : Nat} {a : α}
    (h : last? key table n = some a) : a ∈ table := by
  rw [last?] at h
  split at h
  · cases h
  · exact Array.mem_of_getElem? h

namespace Text

/-! ## Tables -/

namespace CaseTable

/-- The first and the last code points of the ranges that a table maps to. -/
def ranges (t : CaseTable) : List (Nat × Nat) :=
  t.runs.toList.map (fun r => (r.target, r.target + (r.last - r.first))) ++
    (t.expansions.toList.flatMap (·.2)).map fun n => (n, n)

/-- **A table gives the character itself or one from its ranges.** -/
theorem mem_image {t : CaseTable} {c d : Char} (h : d ∈ t.image c) :
    d = c ∨ ∃ p ∈ t.ranges, ∃ n, p.1 ≤ n ∧ n ≤ p.2 ∧ d = Char.ofNat n := by
  rw [image] at h
  split at h
  · next n hn =>
    obtain ⟨r, hr, himage⟩ := Option.bind_eq_some_iff.1 hn
    have hrange := List.mem_map_of_mem (f := fun r : CaseRun =>
      (r.target, r.target + (r.last - r.first)))
      (Array.mem_toList_iff.2 (Ascending.mem_of_last? hr))
    rw [CaseRun.image?] at himage
    split at himage
    · next hmember =>
      obtain rfl := Option.some_inj.1 himage
      exact .inr ⟨_, List.mem_append_left _ hrange, _, Nat.le_add_right _ _,
        Nat.add_le_add_left (by omega) _, List.mem_singleton.1 h⟩
    · cases himage
  · cases hx : t.expansion? c.toNat with
    | none =>
      rw [hx] at h
      exact .inl (by simpa using h)
    | some ns =>
      rw [hx] at h
      obtain ⟨n, hn, rfl⟩ := List.mem_map.1 h
      obtain ⟨x, hlast, rfl⟩ := Option.map_eq_some_iff.1 hx
      have hmem := Ascending.mem_of_last? (Option.filter_eq_some_iff.1 hlast).1
      exact .inr ⟨(n, n), List.mem_append_right _ (List.mem_map_of_mem
        (List.mem_flatMap.2 ⟨x, Array.mem_toList_iff.2 hmem, hn⟩)), n, Nat.le_refl n,
        Nat.le_refl n, rfl⟩

end CaseTable

/-! ## Characters -/

/-- Is the character a space or a line break? -/
def isSpaceOrLineBreak (c : Char) : Bool := c = ' ' || isLineBreak c

variable {c d : Char}

theorem isSpaceOrLineBreak_ofNat {n : Nat} (h : 0x20 < n) (hbreak : n ≠ 0x85)
    (hseparators : n < 0x2028 ∨ 0x2029 < n) : isSpaceOrLineBreak (Char.ofNat n) = false := by
  -- a number without a character stands for the character zero
  have hcode : (Char.ofNat n).toNat = n ∨ Char.ofNat n = '\x00' := by
    by_cases hvalid : n.isValidChar
    · left
      rw [Char.ofNat, dif_pos hvalid]
      rfl
    · right
      rw [Char.ofNat, dif_neg hvalid]
      rfl
  rcases hcode with hcode | hzero
  · have hspace : Char.ofNat n ≠ ' ' := by
      intro hspace
      rw [hspace] at hcode
      exact Nat.ne_of_lt h hcode
    simp only [isSpaceOrLineBreak, hspace, decide_false, Bool.false_or, isLineBreak,
      CharSet.contains, lineBreaks, CharSet.flips_cons, CharSet.flips_nil, hcode]
    grind
  · rw [hzero]
    decide

theorem ranges_avoid : ∀ p ∈ upperTable.ranges ++ lowerTable.ranges,
    (0x20 < p.1 ∧ p.2 < 0x85) ∨ (0x85 < p.1 ∧ p.2 < 0x2028) ∨ 0x2029 < p.1 := by
  decide +kernel

theorem avoids_image {t : CaseTable} (ht : t.ranges ⊆ upperTable.ranges ++ lowerTable.ranges)
    (hc : isSpaceOrLineBreak c = false) (hd : d ∈ t.image c) : isSpaceOrLineBreak d = false := by
  rcases CaseTable.mem_image hd with rfl | ⟨p, hp, n, hfirst, hlast, rfl⟩
  · exact hc
  · have havoid := ranges_avoid p (ht hp)
    exact isSpaceOrLineBreak_ofNat (by omega) (by omega) (by omega)

/-- ASCII is looked through character by character. -/
theorem avoids_ascii (hascii : c.toNat < 0x80) (hc : isSpaceOrLineBreak c = false) :
    isSpaceOrLineBreak c.toUpper = false ∧ isSpaceOrLineBreak c.toLower = false :=
  of_ascii (P := fun c => isSpaceOrLineBreak c = false →
      isSpaceOrLineBreak c.toUpper = false ∧ isSpaceOrLineBreak c.toLower = false)
    (by decide +kernel) hascii hc

theorem avoids_upperChar (hc : isSpaceOrLineBreak c = false) (hd : d ∈ upperChar c) :
    isSpaceOrLineBreak d = false := by
  rw [upperChar] at hd
  split at hd
  · next hascii =>
    rw [List.mem_singleton.1 hd]
    exact (avoids_ascii hascii hc).1
  · exact avoids_image (List.subset_append_left _ _) hc hd

theorem avoids_lowerChar (hc : isSpaceOrLineBreak c = false) (hd : d ∈ lowerChar c) :
    isSpaceOrLineBreak d = false := by
  rw [lowerChar] at hd
  split at hd
  · next hascii =>
    rw [List.mem_singleton.1 hd]
    exact (avoids_ascii hascii hc).2
  · exact avoids_image (List.subset_append_right _ _) hc hd

/-! ## Texts -/

/-- A character of the lower-case form of a text comes from a character of the text, or is a small
sigma. -/
theorem mem_lowerAfter {before cs : List Char} (h : d ∈ lowerAfter before cs) :
    d = 'ς' ∨ d = 'σ' ∨ ∃ c ∈ cs, d ∈ lowerChar c := by
  induction cs generalizing before with
  | nil => cases h
  | cons c cs ih =>
    rw [lowerAfter, List.mem_append] at h
    rcases h with h | h
    · split at h
      · rw [List.mem_singleton.1 h]
        split
        · exact .inl rfl
        · exact .inr (.inl rfl)
      · exact .inr (.inr ⟨c, List.mem_cons_self, h⟩)
    · obtain h | h | ⟨c', hc', hd⟩ := ih h
      · exact .inl h
      · exact .inr (.inl h)
      · exact .inr (.inr ⟨c', List.mem_cons_of_mem c hc', hd⟩)

theorem avoids_lowerChars {cs : List Char} (hcs : ∀ c ∈ cs, isSpaceOrLineBreak c = false)
    (hd : d ∈ lowerChars cs) : isSpaceOrLineBreak d = false := by
  rcases mem_lowerAfter hd with rfl | rfl | ⟨c, hc, hd⟩
  · decide
  · decide
  · exact avoids_lowerChar (hcs c hc) hd

end Text
end Entigram
