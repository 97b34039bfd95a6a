import Entigram.Proofs.Diagram.WrittenLine

/-!
# Written diagrams are read back

The way of a written diagram through the reader.  Cut again, the text has the lines it was made of
(`lines_written`), and the spaces before them are trimmed away.  The lines of a part say what the
part is (`statementsFrom_lines`): a block is open from its first line to its last, so its attributes
are read as such, and behind the part no block is open, so that the next one begins like the first
(`statementsFrom_flatMap_lines`).  Put together, what was said is what was written
(`assembled_flatMap_statements`).
-/

set_option autoImplicit false

namespace Entigram
namespace Diagram

open Text

/-! ## Parts -/

/-- What the lines of a part say. -/
def Element.statements : Element → List Statement
  | .block e => .opening e.name :: e.attributes.map .attribute ++ [.closing]
  | .edge r => [.relationship r]

variable {x : Element} {xs : List Element}

theorem isLine_of_mem_lines (h : x.WellFormed) : ∀ line ∈ x.lines, IsLine line.toList := by
  cases x with
  | block e =>
    have h : EntityWellFormed e := h
    intro line hline
    rcases List.mem_append.1 hline with hline | hline
    · rcases List.mem_cons.1 hline with rfl | hline
      · exact isLine_openingLine h
      · obtain ⟨a, ha, rfl⟩ := List.mem_map.1 hline
        exact isLine_attributeLine (h.attributes a ha)
    · rw [List.mem_singleton.1 hline]
      exact .of_blankless (by decide) (by decide)
  | edge r =>
    intro line hline
    rw [List.mem_singleton.1 hline]
    exact isLine_relationshipLine h

/-- The lines of attributes are read where a block is open, and leave it open. -/
theorem statementsFrom_attributeLines {as : List Attribute} (h : ∀ a ∈ as, AttributeWellFormed a)
    (entity : String) (number : Nat) (rest : List (List Char)) :
    statementsFrom (some entity) number (as.map (fun a => (attributeLine a).toList) ++ rest) =
      as.map .attribute ++ statementsFrom (some entity) (number + as.length) rest := by
  induction as generalizing number with
  | nil => rfl
  | cons a as ih =>
    obtain ⟨ha, has⟩ := List.forall_mem_cons.1 h
    have hsays : Statement.ofLine? (some entity) number (attributeLine a).toList =
        some (.attribute a) := by
      rw [Statement.ofLine?, (isLine_attributeLine ha).trim_eq, ofTrimmed?_attributeLine ha]
    rw [List.map_cons, List.cons_append, statementsFrom, hsays]
    dsimp only [Statement.insideAfter]
    rw [ih has, List.length_cons, Nat.add_assoc, Nat.add_comm 1]
    rfl

/-- **The lines of a part** are read where no block is open. -/
theorem statementsFrom_lines (h : x.WellFormed) (number : Nat) :
    statementsFrom none number (x.lines.map String.toList) = x.statements := by
  cases x with
  | block e =>
    have h : EntityWellFormed e := h
    have hsays : Statement.ofLine? none number (openingLine e.name).toList =
        some (.opening e.name) := by
      rw [Statement.ofLine?, (isLine_openingLine h).trim_eq, ofTrimmed?_openingLine h]
    have hlines : (Element.block e).lines.map String.toList = (openingLine e.name).toList ::
        (e.attributes.map (fun a => (attributeLine a).toList) ++ [['}']]) := by
      rw [Element.lines, List.cons_append, List.map_cons, List.map_append, List.map_map]
      rfl
    rw [hlines, statementsFrom, hsays]
    dsimp only [Statement.insideAfter]
    rw [statementsFrom_attributeLines h.attributes, statementsFrom_closing]
    rfl
  | edge r =>
    have h : RelationshipWellFormed r := h
    have hsays : Statement.ofLine? none number (relationshipLine r).toList =
        some (.relationship r) := by
      rw [Statement.ofLine?, (isLine_relationshipLine h).trim_eq, ofTrimmed?_relationshipLine h]
    rw [Element.lines, List.map_singleton, statementsFrom, hsays]
    rfl

/-- A part leaves no block open. -/
theorem insideAfterAll_statements (x : Element) : insideAfterAll none x.statements = none := by
  cases x with
  | block e =>
    rw [insideAfterAll, Element.statements, List.foldl_append]
    rfl
  | edge r => rfl

theorem statementsFrom_flatMap_lines (h : ∀ x ∈ xs, x.WellFormed) (number : Nat) :
    statementsFrom none number ((xs.flatMap Element.lines).map String.toList) =
      xs.flatMap Element.statements := by
  induction xs generalizing number with
  | nil => rfl
  | cons x xs ih =>
    obtain ⟨hx, hxs⟩ := List.forall_mem_cons.1 h
    rw [List.flatMap_cons, List.map_append, statementsFrom_append, statementsFrom_lines hx,
      insideAfterAll_statements, ih hxs, List.flatMap_cons]

/-! ## The whole text -/

/-- Lines with spaces before them, each with as many as one likes. -/
def indented (indent : Nat → Nat) (ls : List String) : List (List Char) :=
  (ls.mapIdx fun i line => String.ofList (List.replicate (indent i) ' ') ++ line).map String.toList

theorem exists_of_mem_indented {indent : Nat → Nat} {ls : List String} {line : List Char}
    (h : line ∈ indented indent ls) :
    ∃ k : Nat, ∃ s ∈ ls, line = List.replicate k ' ' ++ s.toList := by
  obtain ⟨s, hs, rfl⟩ := List.mem_map.1 h
  obtain ⟨i, hi, rfl⟩ := List.mem_mapIdx.1 hs
  exact ⟨indent i, ls[i], List.getElem_mem hi, by rw [String.toList_append, String.toList_ofList]⟩

theorem map_trim_indented (indent : Nat → Nat) (ls : List String) :
    (indented indent ls).map trim = (ls.map String.toList).map trim := by
  refine List.ext_getElem (by simp [indented]) fun i hi hi' => ?_
  have hspaces : ∀ c ∈ List.replicate (indent i) ' ', isBlank c = true := by
    intro c hc
    rw [List.eq_of_mem_replicate hc]
    decide
  simp only [indented, List.getElem_map, List.getElem_mapIdx, String.toList_append,
    String.toList_ofList]
  rw [trim, trimWhile_append hspaces, ← trim]

theorem lines_written (h : ∀ x ∈ xs, x.WellFormed) (indent : Nat → Nat) :
    lines (written indent xs).toList = indented indent (xs.flatMap Element.lines) := by
  rw [written, String.toList_intercalate]
  refine lines_intercalate fun line hline => ?_
  obtain ⟨k, s, hs, rfl⟩ := exists_of_mem_indented hline
  obtain ⟨x, hx, hs⟩ := List.mem_flatMap.1 hs
  have hs := isLine_of_mem_lines (h x hx) s hs
  refine ⟨by simp [hs.nonempty], List.forall_mem_append.2 ⟨fun c hc => ?_, hs.oneLine⟩⟩
  rw [List.eq_of_mem_replicate hc]
  decide

theorem statements_written (h : ∀ x ∈ xs, x.WellFormed) (indent : Nat → Nat) :
    statements (written indent xs) = xs.flatMap Element.statements := by
  rw [statements, lines_written h, ← statementsFrom_flatMap_lines h 1]
  exact statementsFrom_congr (map_trim_indented indent _) none 1

/-! ## Content -/

theorem foldr_assemble_attributes (as : List Attribute) (acc : List Attribute × List Entity) :
    (as.map Statement.attribute).foldr Statement.assemble acc = (as ++ acc.1, acc.2) := by
  induction as with
  | nil => rfl
  | cons a as ih => rw [List.map_cons, List.foldr_cons, ih]; rfl

theorem assembled_flatMap_statements (xs : List Element) :
    assembled (xs.flatMap Element.statements) = ([], xs.filterMap Element.entity?) := by
  induction xs with
  | nil => rfl
  | cons x xs ih =>
    rw [assembled] at ih
    rw [List.flatMap_cons, assembled, List.foldr_append, ih]
    cases x with
    | block e =>
      rw [Element.statements, List.foldr_append, List.foldr_cons, foldr_assemble_attributes]
      simp [Statement.assemble, Element.entity?]
    | edge r => rfl

/-- What is found in no line of a block is not found in the block. -/
theorem filterMap_statements_block {α : Type} {f : Statement → Option α} (e : Entity)
    (hopening : f (.opening e.name) = none) (hattribute : ∀ a, f (.attribute a) = none)
    (hclosing : f .closing = none) : (Element.block e).statements.filterMap f = [] := by
  rw [List.filterMap_eq_nil_iff]
  intro s hs
  simp only [Element.statements, List.cons_append, List.mem_cons, List.mem_append, List.mem_map,
    List.not_mem_nil, or_false] at hs
  rcases hs with rfl | ⟨a, -, rfl⟩ | rfl
  · exact hopening
  · exact hattribute a
  · exact hclosing

theorem filterMap_relationship?_flatMap_statements (xs : List Element) :
    (xs.flatMap Element.statements).filterMap Statement.relationship? =
      xs.filterMap Element.relationship? := by
  rw [List.filterMap_flatMap, List.filterMap_eq_flatMap_toList]
  refine List.flatMap_congr fun x _ => ?_
  cases x with
  | block e => exact filterMap_statements_block e rfl (fun a => rfl) rfl
  | edge r => rfl

theorem filterMap_note?_flatMap_statements (xs : List Element) :
    (xs.flatMap Element.statements).filterMap Statement.note? = [] := by
  rw [List.filterMap_flatMap, List.flatMap_eq_nil_iff]
  intro x _
  cases x with
  | block e => exact filterMap_statements_block e rfl (fun a => rfl) rfl
  | edge r => rfl

/-- **What is written is read back**, with every entity, attribute, flag, relationship and label in
its order, and nothing is passed over.  It does not matter how the lines are indented. -/
theorem read_written (h : ∀ x ∈ xs, x.WellFormed) (indent : Nat → Nat) :
    read (written indent xs) = { schema := described xs, notes := [] } := by
  rw [read, statements_written h, entitiesOf_eq, assembled_flatMap_statements,
    filterMap_relationship?_flatMap_statements, filterMap_note?_flatMap_statements]
  rfl

/-- Parts that try the borders between the shapes: names and marks with the letter `o`, a label with
a colon, dashes, a brace and quotes inside, and all flags. -/
def loans : List Element := [
  .edge {
    source := "Foo", target := "oo", sourceCardinality := "o|", targetCardinality := "o\x7b",
    label := "a: \"b\" -- \x7d \x7b" },
  .block {
    name := "Loan -- of: a book"
    attributes := [
      { name := "id", dataType := "int", isPrimaryKey := true },
      { name := "book", dataType := "o\x7d", isForeignKey := true },
      { name := "PK", dataType := "erDiagra", isPrimaryKey := true, isForeignKey := true },
      { name := "--:", dataType := "\x7d" }] },
  .block { name := "\x7d" },
  .edge { source := "o", target := "_o9", sourceCardinality := "oo", targetCardinality := "ooo" }]

theorem read_written_loans : (∀ x ∈ loans, x.WellFormed) ∧
    read (written (fun i => i % 3) loans) = { schema := described loans, notes := [] } :=
  have h : ∀ x ∈ loans, x.WellFormed := by decide +kernel
  ⟨h, read_written h _⟩

end Diagram
end Entigram
