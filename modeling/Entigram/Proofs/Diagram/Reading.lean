import Mathlib.Data.List.Basic
import Entigram.Diagram.Reading
import Entigram.Proofs.Text.Pieces

/-!
# Lines, one after the other

Reading is a walk along the lines with one thing in mind, the entity whose block is open, and with
the number of the line.  `Says` tells what a single line can come to, shape by shape, and
`says_ofTrimmed?` that the walk takes these steps and no others.  From the steps follows what holds
of all walks:

* A walk over two stretches of lines is the walk over the first and then, with what that leaves
  open, the one over the second (`statementsFrom_append`).
* The number only shows in the notes (`statementsFrom_later`).
* Where no block is open in the beginning, no attribute is left without an entity
  (`waiting_statementsFrom`).  So the entities of two stretches are those of the first and those of
  the second, if nothing is open in between (`entitiesOf_append`).
* Nothing is read that does not stand in some line (`says_of_mem_statementsFrom`), and entities have
  no names and attributes but those that were read (`mem_of_mem_assembled`).
-/

set_option autoImplicit false

namespace Entigram
namespace Diagram

open Text

/-! ## One line -/

/-- What a trimmed line can come to, given its number and the entity whose block is open. -/
inductive Says (number : Nat) (line : List Char) : Option String → Option Statement → Prop
  | silent {inside : Option String} (hsilent : isSilent line = true) : Says number line inside none
  | opening {inside : Option String} (hsilent : isSilent line = false)
      (hopening : isOpening line = true) :
      Says number line inside (some (.opening (openedName line)))
  | closing {inside : Option String} (hclosing : line = ['}']) :
      Says number line inside (some .closing)
  | attribute {entity : String} {a : Attribute} (hsilent : isSilent line = false)
      (hopening : isOpening line = false) (hclosing : line ≠ ['}'])
      (ha : attribute? line = some a) : Says number line (some entity) (some (.attribute a))
  | shortAttribute {entity : String} (hsilent : isSilent line = false)
      (hclosing : line ≠ ['}']) :
      Says number line (some entity) (some (.unread (.shortAttribute number entity line)))
  | relationship {r : Relationship} (hsilent : isSilent line = false)
      (hopening : isOpening line = false) (hclosing : line ≠ ['}'])
      (hr : relationship? line = some r) : Says number line none (some (.relationship r))
  | unreadRelationship (hsilent : isSilent line = false) (hclosing : line ≠ ['}']) :
      Says number line none (some (.unread (.unreadRelationship number line)))
  | ignored (hsilent : isSilent line = false) (hclosing : line ≠ ['}']) :
      Says number line none (some (.unread (.ignored number line)))

/-- **Every line comes to one of these.** -/
theorem says_ofTrimmed? (inside : Option String) (number : Nat) (line : List Char) :
    Says number line inside (Statement.ofTrimmed? inside number line) := by
  unfold Statement.ofTrimmed?
  cases hsilent : isSilent line with
  | true => exact .silent hsilent
  | false =>
    cases hopening : isOpening line with
    | true => exact .opening hsilent hopening
    | false =>
      by_cases hclosing : line = ['}']
      · simp only [hclosing, if_true, Bool.false_eq_true, if_false]
        exact .closing rfl
      · simp only [hclosing, Bool.false_eq_true, if_false]
        cases inside with
        | some entity =>
          cases ha : attribute? line with
          | some a => exact .attribute hsilent hopening hclosing ha
          | none => exact .shortAttribute hsilent hclosing
        | none =>
          dsimp only
          split
          · cases hr : relationship? line with
            | some r => exact .relationship hsilent hopening hclosing hr
            | none => exact .unreadRelationship hsilent hclosing
          · exact .ignored hsilent hclosing

variable {inside : Option String} {number : Nat} {line : List Char}

/-! ## Stretches of lines -/

/-- The entity whose block is open after statements. -/
def insideAfterAll (inside : Option String) (ss : List Statement) : Option String :=
  ss.foldl Statement.insideAfter inside

/-- **A walk over two stretches** goes on where the first one ends. -/
theorem statementsFrom_append (inside : Option String) (number : Nat)
    (before after : List (List Char)) :
    statementsFrom inside number (before ++ after) =
      statementsFrom inside number before ++
        statementsFrom (insideAfterAll inside (statementsFrom inside number before))
          (number + before.length) after := by
  induction before generalizing inside number with
  | nil => rfl
  | cons line before ih =>
    have hnumber : number + (line :: before).length = number + 1 + before.length := by
      rw [List.length_cons]
      omega
    rw [List.cons_append, statementsFrom, statementsFrom, hnumber]
    cases Statement.ofLine? inside number line with
    | none => exact ih inside (number + 1)
    | some s => exact congrArg (s :: ·) (ih (s.insideAfter inside) (number + 1))

/-- Empty lines say nothing. -/
theorem statementsFrom_of_empty {ls : List (List Char)} (h : ∀ line ∈ ls, line = [])
    (inside : Option String) (number : Nat) : statementsFrom inside number ls = [] := by
  induction ls generalizing number with
  | nil => rfl
  | cons line ls ih =>
    obtain ⟨rfl, hls⟩ := List.forall_mem_cons.1 h
    exact ih hls (number + 1)

/-- Only what stands between the blanks of a line counts. -/
theorem statementsFrom_congr {ls ls' : List (List Char)} (h : ls.map trim = ls'.map trim)
    (inside : Option String) (number : Nat) :
    statementsFrom inside number ls = statementsFrom inside number ls' := by
  induction ls generalizing ls' inside number with
  | nil => rw [List.map_eq_nil_iff.1 h.symm]
  | cons line ls ih =>
    obtain ⟨line', rest, rfl, hline, hrest⟩ := List.map_eq_cons_iff.1 h.symm
    have hsays : Statement.ofLine? inside number line = Statement.ofLine? inside number line' := by
      rw [Statement.ofLine?, Statement.ofLine?, hline]
    rw [statementsFrom, statementsFrom, hsays]
    cases Statement.ofLine? inside number line' with
    | none => exact ih hrest.symm inside (number + 1)
    | some s => exact congrArg (s :: ·) (ih hrest.symm (s.insideAfter inside) (number + 1))

/-- **Every statement is what some line says.** -/
theorem says_of_mem_statementsFrom {ls : List (List Char)} {s : Statement}
    (h : s ∈ statementsFrom inside number ls) :
    ∃ line ∈ ls, ∃ inside' number', Says number' (trim line) inside' (some s) := by
  induction ls generalizing inside number with
  | nil => cases h
  | cons line ls ih =>
    have hlater : ∀ {inside number}, s ∈ statementsFrom inside number ls →
        ∃ line' ∈ line :: ls, ∃ inside' number', Says number' (trim line') inside' (some s) := by
      intro inside number h
      obtain ⟨line', hline', hsays⟩ := ih h
      exact ⟨line', List.mem_cons_of_mem line hline', hsays⟩
    have hsays := says_ofTrimmed? inside number (trim line)
    rw [statementsFrom, Statement.ofLine?] at h
    cases hs : Statement.ofTrimmed? inside number (trim line) with
    | none =>
      rw [hs] at h
      exact hlater h
    | some s' =>
      rw [hs] at h hsays
      rcases List.mem_cons.1 h with rfl | h
      · exact ⟨line, List.mem_cons_self, inside, number, hsays⟩
      · exact hlater h

/-! ## Further down -/

/-- The note, if its line stood so many lines further down. -/
def Note.later (k : Nat) : Note → Note
  | .shortAttribute number entity text => .shortAttribute (number + k) entity text
  | .unreadRelationship number text => .unreadRelationship (number + k) text
  | .ignored number text => .ignored (number + k) text

/-- The statement, if its line stood so many lines further down. -/
def Statement.later (k : Nat) : Statement → Statement
  | .unread note => .unread (note.later k)
  | s => s

theorem insideAfter_later (k : Nat) (s : Statement) :
    (s.later k).insideAfter inside = s.insideAfter inside := by
  cases s <;> rfl

theorem relationship?_later (k : Nat) (s : Statement) :
    (s.later k).relationship? = s.relationship? := by
  cases s <;> rfl

theorem note?_later (k : Nat) (s : Statement) :
    (s.later k).note? = s.note?.map (Note.later k) := by
  cases s <;> rfl

theorem ofLine?_later (k : Nat) : Statement.ofLine? inside (number + k) line =
    (Statement.ofLine? inside number line).map (Statement.later k) := by
  rw [Statement.ofLine?, Statement.ofLine?]
  generalize trim line = line
  unfold Statement.ofTrimmed?
  cases inside with
  | some entity => cases attribute? line <;> split_ifs <;> rfl
  | none => cases relationship? line <;> split_ifs <;> rfl

/-- **Further down only the notes differ.** -/
theorem statementsFrom_later (k : Nat) (ls : List (List Char)) :
    statementsFrom inside (number + k) ls =
      (statementsFrom inside number ls).map (Statement.later k) := by
  induction ls generalizing inside number with
  | nil => rfl
  | cons line ls ih =>
    rw [statementsFrom, statementsFrom, ofLine?_later, Nat.add_right_comm]
    cases Statement.ofLine? inside number line with
    | none => exact ih
    | some s =>
      dsimp only [Option.map_some]
      rw [insideAfter_later, ih, List.map_cons]

/-! ## Entities of statements -/

/-- The attributes in front that belong to no entity of the statements, and the entities. -/
def assembled (ss : List Statement) : List Attribute × List Entity :=
  ss.foldr Statement.assemble ([], [])

theorem assembled_cons (s : Statement) (ss : List Statement) :
    assembled (s :: ss) = s.assemble (assembled ss) := rfl

theorem entitiesOf_eq (ss : List Statement) : entitiesOf ss = (assembled ss).2 := rfl

/-- **Where no block is open, no attribute waits** for its entity. -/
theorem waiting_statementsFrom (number : Nat) (ls : List (List Char)) :
    (assembled (statementsFrom none number ls)).1 = [] := by
  induction ls generalizing number with
  | nil => rfl
  | cons line ls ih =>
    have hsays := says_ofTrimmed? none number (trim line)
    rw [statementsFrom, Statement.ofLine?]
    -- a line that opens a block takes all that waits, and no other line changes the state
    cases hs : Statement.ofTrimmed? none number (trim line) with
    | none => exact ih (number + 1)
    | some s =>
      rw [hs] at hsays
      cases hsays with
      | opening hsilent hopening => rfl
      | closing hclosing => exact ih (number + 1)
      | relationship hsilent hopening hclosing hr => exact ih (number + 1)
      | unreadRelationship hsilent hclosing => exact ih (number + 1)
      | ignored hsilent hclosing => exact ih (number + 1)

/-- Where nothing waits, entities come after entities. -/
theorem entitiesOf_append (before : List Statement) {after : List Statement}
    (h : (assembled after).1 = []) :
    entitiesOf (before ++ after) = entitiesOf before ++ entitiesOf after := by
  have hall : assembled (before ++ after) =
      ((assembled before).1, (assembled before).2 ++ (assembled after).2) := by
    induction before with
    | nil => exact Prod.ext h rfl
    | cons s before ih =>
      rw [List.cons_append, assembled_cons, ih, assembled_cons]
      cases s <;> rfl
  rw [entitiesOf_eq, hall]
  rfl

theorem assembled_later (k : Nat) (ss : List Statement) :
    assembled (ss.map (Statement.later k)) = assembled ss := by
  have hstep : ∀ s : Statement, (s.later k).assemble = s.assemble := fun s => by cases s <;> rfl
  rw [assembled, assembled, List.foldr_map]
  simp only [hstep]

/-- Attributes were declared by statements, those that still wait for their entity included, and
entities were opened by them. -/
theorem mem_of_mem_assembled (ss : List Statement) :
    (∀ a ∈ (assembled ss).1, .attribute a ∈ ss) ∧ ∀ e ∈ (assembled ss).2,
      .opening e.name ∈ ss ∧ ∀ a ∈ e.attributes, .attribute a ∈ ss := by
  induction ss with
  | nil => exact ⟨fun a ha => absurd ha List.not_mem_nil, fun e he => absurd he List.not_mem_nil⟩
  | cons s ss ih =>
    have hwaiting : ∀ a ∈ (assembled ss).1, .attribute a ∈ s :: ss :=
      fun a ha => List.mem_cons_of_mem s (ih.1 a ha)
    have hentities : ∀ e ∈ (assembled ss).2,
        .opening e.name ∈ s :: ss ∧ ∀ a ∈ e.attributes, .attribute a ∈ s :: ss :=
      fun e he => ⟨List.mem_cons_of_mem s (ih.2 e he).1,
        fun a ha => List.mem_cons_of_mem s ((ih.2 e he).2 a ha)⟩
    rw [assembled_cons]
    match s, hwaiting, hentities with
    | .opening name, hwaiting, hentities =>
      exact ⟨fun a ha => absurd ha List.not_mem_nil,
        List.forall_mem_cons.2 ⟨⟨List.mem_cons_self, hwaiting⟩, hentities⟩⟩
    | .attribute a, hwaiting, hentities =>
      exact ⟨List.forall_mem_cons.2 ⟨List.mem_cons_self, hwaiting⟩, hentities⟩
    | .closing, hwaiting, hentities
    | .relationship _, hwaiting, hentities
    | .unread _, hwaiting, hentities => exact ⟨hwaiting, hentities⟩

/-! ## A text after another -/

/-- A line that closes a block does so anywhere. -/
theorem statementsFrom_closing (inside : Option String) (number : Nat) (ls : List (List Char)) :
    statementsFrom inside number (['}'] :: ls) = .closing :: statementsFrom none (number + 1) ls :=
  rfl

/-- **What two texts say**, the second of them behind a line that closes a block. -/
theorem statements_append (a b : String) : statements (a ++ "\n\x7d\n" ++ b) =
    statements a ++ .closing ::
      (statements b).map (Statement.later (lines (a ++ "\n\x7d").toList).length) := by
  obtain ⟨gap, hgap, hlines⟩ := exists_lines_append_lineFeed a.toList
  have hfirst : lines (a ++ "\n\x7d").toList = lines a.toList ++ gap ++ [['}']] := by
    rw [String.toList_append]
    exact hlines ['}']
  have hall : lines (a ++ "\n\x7d\n" ++ b).toList =
      lines a.toList ++ gap ++ ['}'] :: lines b.toList := by
    rw [String.toList_append, String.toList_append, List.append_assoc]
    exact hlines ('}' :: '\n' :: b.toList)
  have hnumber : 1 + (lines a.toList ++ gap).length + 1 =
      1 + (lines (a ++ "\n\x7d").toList).length := by
    simp only [hfirst, List.length_append, List.length_singleton, Nat.add_assoc]
  rw [statements, hall, statementsFrom_append, statementsFrom_append,
    statementsFrom_of_empty hgap, List.append_nil, statementsFrom_closing, hnumber,
    statementsFrom_later]
  rfl

/-- **Reading goes part by part.**  Whatever the first text is and wherever it stops, a line that
closes a block ends its part: the whole has the entities and relationships of the first text and
then those of the second, and it has the notes of both, where the lines of the second are counted
from behind that line. -/
theorem read_append (a b : String) :
    parse (a ++ "\n\x7d\n" ++ b) = parse a ++ parse b ∧
      (read (a ++ "\n\x7d\n" ++ b)).notes =
        (read a).notes ++
          (read b).notes.map (Note.later (lines (a ++ "\n\x7d").toList).length) := by
  have hsaid := statements_append a b
  set k := (lines (a ++ "\n\x7d").toList).length
  have hwaiting : (assembled (.closing :: (statements b).map (Statement.later k))).1 = [] := by
    rw [assembled_cons, assembled_later]
    exact waiting_statementsFrom 1 (lines b.toList)
  have hentities : entitiesOf (statements (a ++ "\n\x7d\n" ++ b)) =
      entitiesOf (statements a) ++ entitiesOf (statements b) := by
    rw [hsaid, entitiesOf_append _ hwaiting]
    simp only [entitiesOf_eq, assembled_cons, assembled_later, Statement.assemble]
  have hrelationships : (statements (a ++ "\n\x7d\n" ++ b)).filterMap Statement.relationship? =
      (statements a).filterMap Statement.relationship? ++
        (statements b).filterMap Statement.relationship? := by
    rw [hsaid, List.filterMap_append, List.filterMap_cons_none rfl, List.filterMap_map]
    exact congrArg _ (List.filterMap_congr fun s _ => relationship?_later k s)
  have hnotes : (statements (a ++ "\n\x7d\n" ++ b)).filterMap Statement.note? =
      (statements a).filterMap Statement.note? ++
        ((statements b).filterMap Statement.note?).map (Note.later k) := by
    rw [hsaid, List.filterMap_append, List.filterMap_cons_none rfl, List.filterMap_map,
      List.map_filterMap]
    exact congrArg _ (List.filterMap_congr fun s _ => note?_later k s)
  exact ⟨congrArg₂ Schema.mk hentities hrelationships, hnotes⟩

end Diagram
end Entigram
