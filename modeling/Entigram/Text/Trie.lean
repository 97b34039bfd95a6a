/-!
# Sets of texts

A set of texts is kept as a tree that branches at every character, so that a lookup costs as many
steps as the text is long, however large the set is.

* `Trie.contains` — the lookup.
* `Trie.insert` — one more text.

`contains_empty` and `contains_insert` say all there is to say about both: what a set contains are
the texts that were put into it.
-/

set_option autoImplicit false

namespace Entigram
namespace Text

/-- A set of texts. -/
inductive Trie
  /-- Does a text end here, and how do texts go on? -/
  | node (ends : Bool) (branches : List (Char × Trie))

namespace Trie

/-- The set without texts. -/
def empty : Trie := node false []

instance : Inhabited Trie := ⟨empty⟩

/-- Is the text in the set? -/
def contains : Trie → List Char → Bool
  | node ends _, [] => ends
  | node _ branches, c :: cs =>
    match branches.lookup c with
    | some t => t.contains cs
    | none => false

/-- Puts a text into the set. -/
def insert : List Char → Trie → Trie
  | [], node _ branches => node true branches
  | c :: cs, node ends branches =>
    node ends ((c, insert cs ((branches.lookup c).getD empty)) :: branches.filter fun b => b.1 != c)

theorem contains_empty (text : List Char) : empty.contains text = false := by
  cases text <;> rfl

/-- What a character leads to does not depend on the branches of another one. -/
theorem lookup_filter {c d : Char} (h : d ≠ c) (branches : List (Char × Trie)) :
    (branches.filter fun b => b.1 != c).lookup d = branches.lookup d := by
  induction branches with
  | nil => rfl
  | cons b bs ih =>
    obtain ⟨a, t⟩ := b
    by_cases hc : a = c
    · subst hc
      rw [List.filter_cons_of_neg (by simp), ih, List.lookup_cons, beq_false_of_ne h]
    · rw [List.filter_cons_of_pos (by simpa using hc), List.lookup_cons, List.lookup_cons, ih]

/-- A set with one more text contains that text and what it contained before. -/
theorem contains_insert (t : Trie) (text other : List Char) :
    (insert text t).contains other = (other == text || t.contains other) := by
  induction text generalizing t other with
  | nil =>
    obtain ⟨ends, branches⟩ := t
    cases other <;> simp [insert, contains]
  | cons c cs ih =>
    obtain ⟨ends, branches⟩ := t
    cases other with
    | nil => simp [insert, contains]
    | cons d ds =>
      rw [insert, contains, contains, List.lookup_cons]
      by_cases h : d = c
      · subst h
        simp only [beq_self_eq_true, ih, List.cons_beq_cons, Bool.true_and]
        cases branches.lookup d <;> simp [contains_empty]
      · have hb : (d == c) = false := by simpa using h
        simp only [hb, lookup_filter h, List.cons_beq_cons, Bool.false_and, Bool.false_or]

end Trie

end Text
end Entigram
