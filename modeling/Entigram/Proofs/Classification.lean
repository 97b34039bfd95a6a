import Entigram.Classification

/-!
# What the kinds come to

`Schema.kind` settles the precedence of tests that overlap.  `kind_cases` says once what that comes
to: an owned entity is just that, a join table is one if it is not owned, and the kind of any other
entity is told by the number of its key columns.

From it each kind gets one condition of its own, without the tests before it.  Two of the tests
already leave out what comes before them, so their kinds are just the tests
(`kind_eq_compositeKey_iff`, `kind_eq_keyless_iff`).  This is not plain for keyless entities, as
that test does not ask for a join table; but a join table has key columns.
-/

set_option autoImplicit false

namespace Entigram

/-- A join table has several key columns. -/
theorem Entity.two_le_of_isJoinTable {e : Entity} (h : e.isJoinTable = true) :
    2 ≤ e.primaryKeys.length := by
  rw [Entity.isJoinTable, Bool.and_eq_true, Bool.and_eq_true, decide_eq_true_iff] at h
  exact h.1.1

/-- In a join table every key column is a foreign key. -/
theorem Entity.isForeignKey_of_isJoinTable {e : Entity} (h : e.isJoinTable = true) {a : Attribute}
    (ha : a ∈ e.attributes) (hkey : a.isPrimaryKey = true) : a.isForeignKey = true := by
  rw [Entity.isJoinTable, Bool.and_eq_true, List.all_eq_true] at h
  exact h.2 a (List.mem_filter.2 ⟨ha, hkey⟩)

namespace Schema

variable {s : Schema} {e : Entity}

theorem needsCompositeKey_iff : s.needsCompositeKey e = true ↔
    s.isOwned e = false ∧ e.isJoinTable = false ∧ 2 ≤ e.primaryKeys.length := by
  simp [needsCompositeKey, and_assoc, Nat.succ_le_iff]

theorem isKeyless_iff : s.isKeyless e = true ↔
    s.isOwned e = false ∧ e.primaryKeys.length = 0 := by
  simp [isKeyless]

/-- **The precedence of the kinds.** -/
theorem kind_cases (s : Schema) (e : Entity) :
    (s.kind e = .owned ∧ s.isOwned e = true) ∨
    (s.kind e = .joinTable ∧ s.isOwned e = false ∧ e.isJoinTable = true) ∨
    (s.isOwned e = false ∧ e.isJoinTable = false ∧
      ((s.kind e = .compositeKey ∧ 2 ≤ e.primaryKeys.length) ∨
        (s.kind e = .keyless ∧ e.primaryKeys.length = 0) ∨
        (s.kind e = .regular ∧ e.primaryKeys.length = 1))) := by
  rw [kind]
  cases howned : s.isOwned e with
  | true => simp
  | false =>
    cases hjoin : e.isJoinTable with
    | true => simp
    | false =>
      have hcomposite : s.needsCompositeKey e = true ↔ 2 ≤ e.primaryKeys.length := by
        simp [needsCompositeKey_iff, howned, hjoin]
      have hkeyless : s.isKeyless e = true ↔ e.primaryKeys.length = 0 := by
        simp [isKeyless_iff, howned]
      rcases Nat.lt_trichotomy 1 e.primaryKeys.length with h | h | h
      · simp [hcomposite.2 h]; omega
      · simp [hcomposite, hkeyless, ← h]
      · have hnone : e.primaryKeys.length = 0 := by omega
        simp [hcomposite, hkeyless, hnone]

theorem kind_eq_owned_iff : s.kind e = .owned ↔ s.isOwned e = true := by
  rcases kind_cases s e with ⟨hk, h⟩ | ⟨hk, h, -⟩ | ⟨h, -, ⟨hk, -⟩ | ⟨hk, -⟩ | ⟨hk, -⟩⟩ <;>
    simp [hk, h]

theorem kind_eq_joinTable_iff :
    s.kind e = .joinTable ↔ s.isOwned e = false ∧ e.isJoinTable = true := by
  rcases kind_cases s e with ⟨hk, h⟩ | ⟨hk, h, h'⟩ | ⟨h, h', ⟨hk, -⟩ | ⟨hk, -⟩ | ⟨hk, -⟩⟩ <;>
    simp [*]

/-- A join table is of that kind, unless it is owned. -/
theorem kind_mem_of_isJoinTable (h : e.isJoinTable = true) :
    s.kind e ∈ [Kind.joinTable, .owned] := by
  rcases kind_cases s e with ⟨hk, -⟩ | ⟨hk, -⟩ | ⟨-, hjoin, -⟩
  · simp [hk]
  · simp [hk]
  · rw [h] at hjoin
    cases hjoin

/-- An entity that is neither owned nor a join table has one of the other kinds. -/
theorem kind_mem_iff : s.kind e ∈ [Kind.compositeKey, .keyless, .regular] ↔
    s.isOwned e = false ∧ e.isJoinTable = false := by
  rcases kind_cases s e with ⟨hk, h⟩ | ⟨hk, h, h'⟩ | ⟨h, h', ⟨hk, -⟩ | ⟨hk, -⟩ | ⟨hk, -⟩⟩ <;>
    simp [*]

theorem kind_eq_compositeKey_iff : s.kind e = .compositeKey ↔ s.needsCompositeKey e = true := by
  rw [needsCompositeKey_iff]
  rcases kind_cases s e with ⟨hk, h⟩ | ⟨hk, h, h'⟩ | ⟨h, h', ⟨hk, hn⟩ | ⟨hk, hn⟩ | ⟨hk, hn⟩⟩ <;>
    simp [*]

theorem kind_eq_keyless_iff : s.kind e = .keyless ↔ s.isKeyless e = true := by
  have hjoin : e.isJoinTable = true → e.primaryKeys.length ≠ 0 := fun h => by
    have := Entity.two_le_of_isJoinTable h
    omega
  rw [isKeyless_iff]
  rcases kind_cases s e with ⟨hk, h⟩ | ⟨hk, h, h'⟩ | ⟨h, h', ⟨hk, hn⟩ | ⟨hk, hn⟩ | ⟨hk, hn⟩⟩ <;>
    grind

/-- Kinds are told by which entities are owned. -/
theorem kind_congr {t : Schema} (h : s.isOwned = t.isOwned) : s.kind = t.kind := by
  funext e
  rw [kind, kind, needsCompositeKey, needsCompositeKey, isKeyless, isKeyless, h]

end Schema

end Entigram
