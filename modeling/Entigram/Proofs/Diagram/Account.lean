import Mathlib.Data.List.Forall2
import Entigram.Proofs.Diagram.Reading

/-!
# Every line is accounted for

A line that is not silent says exactly one thing, and every statement ends up in exactly one place:
as an entity, as an attribute of one, as a relationship or as a note, or it closes a block.  So
nothing is lost without a note.  The count is kept in two steps, from lines to statements
(`length_statementsFrom`) and from statements to what becomes of them (`length_eq`); the second is
exact because no attribute is left without an entity.

The notes are in the order of their lines (`pairwise_line`), and each of them shows the line that
it cites (`exists_line_of_mem`).
-/

set_option autoImplicit false

namespace Entigram
namespace Diagram

open Text

variable {inside : Option String} {number : Nat}

/-! ## What a line counts for -/

/-- A line says something unless it is silent. -/
theorem isSome_ofTrimmed? (inside : Option String) (number : Nat) (line : List Char) :
    (Statement.ofTrimmed? inside number line).isSome = !isSilent line := by
  have hsays := says_ofTrimmed? inside number line
  cases hs : Statement.ofTrimmed? inside number line with
  | none =>
    rw [hs] at hsays
    cases hsays with
    | silent hsilent => rw [hsilent]; rfl
  | some s =>
    rw [hs] at hsays
    cases hsays with
    | closing hclosing => rw [hclosing]; rfl
    | _ => simp [*]

/-- Just the line with nothing but the brace closes a block. -/
theorem ofTrimmed?_eq_closing_iff {line : List Char} :
    Statement.ofTrimmed? inside number line = some .closing ↔ line = ['}'] := by
  constructor
  · intro hs
    have hsays := says_ofTrimmed? inside number line
    rw [hs] at hsays
    cases hsays with
    | closing hclosing => exact hclosing
  · rintro rfl
    rfl

/-- The line that a note shows. -/
def Note.text : Note → List Char
  | .shortAttribute _ _ text => text
  | .unreadRelationship _ text => text
  | .ignored _ text => text

/-- A note has the number of its line, and shows it. -/
theorem line_and_text_of_unread {line : List Char} {note : Note}
    (h : Statement.ofTrimmed? inside number line = some (.unread note)) :
    note.line = number ∧ note.text = line := by
  have hsays := says_ofTrimmed? inside number line
  rw [h] at hsays
  cases hsays <;> exact ⟨rfl, rfl⟩

/-- A note's message begins with the number of the line and ends with the line. -/
theorem message_eq (note : Note) : ∃ reason : String,
    note.message = s!"Line {note.line}: {reason}{quoted note.text}" := by
  cases note with
  | shortAttribute number entity text =>
    have hcolon : ": skipping attribute line in " = ": " ++ "skipping attribute line in " := rfl
    refine ⟨"skipping attribute line in " ++ entity ++ ": ", ?_⟩
    rw [Note.message, hcolon]
    simp only [Note.line, Note.text, toString, String.append_assoc]
  | unreadRelationship number text =>
    have hcolon : ": skipping relationship line: " = ": " ++ "skipping relationship line: " := rfl
    refine ⟨"skipping relationship line: ", ?_⟩
    rw [Note.message, hcolon]
    simp only [Note.line, Note.text, toString, String.append_assoc]
  | ignored number text =>
    have hcolon : ": ignored: " = ": " ++ "ignored: " := rfl
    refine ⟨"ignored: ", ?_⟩
    rw [Note.message, hcolon]
    simp only [Note.line, Note.text, toString, String.append_assoc]

/-! ## From lines to statements -/

theorem length_statementsFrom (inside : Option String) (number : Nat) (ls : List (List Char)) :
    (statementsFrom inside number ls).length = ls.countP fun line => !isSilent (trim line) := by
  fun_induction statementsFrom inside number ls with
  | case1 => rfl
  | case2 inside number line rest hs ih =>
    rw [List.countP_cons, ih, ← isSome_ofTrimmed? inside number, ← Statement.ofLine?, hs]
    rfl
  | case3 inside number line rest s hs ih =>
    rw [List.countP_cons, List.length_cons, ih, ← isSome_ofTrimmed? inside number,
      ← Statement.ofLine?, hs]
    rfl

theorem count_closing_statementsFrom (inside : Option String) (number : Nat)
    (ls : List (List Char)) :
    (statementsFrom inside number ls).count .closing =
      ls.countP fun line => trim line == ['}'] := by
  have hclosing : ∀ inside number line, (trim line == ['}']) =
      (Statement.ofLine? inside number line == some .closing) := by
    intro inside number line
    rw [Bool.eq_iff_iff, beq_iff_eq, beq_iff_eq, Statement.ofLine?, ofTrimmed?_eq_closing_iff]
  fun_induction statementsFrom inside number ls with
  | case1 => rfl
  | case2 inside number line rest hs ih =>
    rw [List.countP_cons, ih, hclosing inside number, hs]
    rfl
  | case3 inside number line rest s hs ih =>
    rw [List.countP_cons, List.count_cons, ih, hclosing inside number, hs]
    rfl

/-! ## From statements to what becomes of them -/

/-- **Every statement has one place**: among the attributes that wait, the entities, their
attributes, the relationships, the ends of blocks or the notes. -/
theorem length_eq (ss : List Statement) :
    ss.length = (assembled ss).1.length + (assembled ss).2.length +
      ((assembled ss).2.flatMap (·.attributes)).length +
      (ss.filterMap Statement.relationship?).length + ss.count .closing +
      (ss.filterMap Statement.note?).length := by
  induction ss with
  | nil => rfl
  | cons s ss ih =>
    rw [List.length_cons, ih, assembled_cons, List.filterMap_cons, List.filterMap_cons,
      List.count_cons]
    cases s <;> simp [Statement.assemble, Statement.relationship?, Statement.note?] <;> omega

/-! ## Notes -/

/-- Every note is about one of the lines. -/
theorem exists_line_of_mem {ls : List (List Char)} {note : Note}
    (h : .unread note ∈ statementsFrom inside number ls) :
    ∃ i line, ls[i]? = some line ∧ note.line = number + i ∧ note.text = trim line := by
  fun_induction statementsFrom inside number ls with
  | case1 => cases h
  | case2 inside number line rest hs ih =>
    obtain ⟨i, l, hl, hline, htext⟩ := ih h
    exact ⟨i + 1, l, hl, by omega, htext⟩
  | case3 inside number line rest s hs ih =>
    rcases List.mem_cons.1 h with rfl | hmem
    · obtain ⟨hline, htext⟩ := line_and_text_of_unread hs
      exact ⟨0, line, rfl, hline, htext⟩
    · obtain ⟨i, l, hl, hline, htext⟩ := ih hmem
      exact ⟨i + 1, l, hl, by omega, htext⟩

theorem mem_filterMap_note? {ss : List Statement} {note : Note} :
    note ∈ ss.filterMap Statement.note? ↔ .unread note ∈ ss := by
  rw [List.mem_filterMap]
  constructor
  · rintro ⟨s, hs, hnote⟩
    cases s <;> cases hnote
    exact hs
  · exact fun h => ⟨.unread note, h, rfl⟩

/-- **Notes stand in the order of their lines**, at most one for each. -/
theorem pairwise_line (inside : Option String) (number : Nat) (ls : List (List Char)) :
    ((statementsFrom inside number ls).filterMap Statement.note?).Pairwise
      fun m n => m.line < n.line := by
  fun_induction statementsFrom inside number ls with
  | case1 => exact List.Pairwise.nil
  | case2 inside number line rest hs ih => exact ih
  | case3 inside number line rest s hs ih =>
    rw [List.filterMap_cons]
    cases s with
    | unread note =>
      refine List.pairwise_cons.2 ⟨fun later hlater => ?_, ih⟩
      obtain ⟨i, -, -, hi, -⟩ := exists_line_of_mem (mem_filterMap_note?.1 hlater)
      have hline := (line_and_text_of_unread hs).1
      omega
    | _ => exact ih

/-! ## The account -/

/-- What reading a text logs for debugging. -/
def debugRecords (text elapsed : String) : List Log.Record :=
  ((read text).log elapsed).filter fun r => r.level == .debug

/-- A record that cites a line of the text by its number, counted from one, and shows it. -/
def Cites (text : String) (n : Nat) (r : Log.Record) : Prop :=
  ∃ (i : Nat) (line : List Char) (reason : String), n = i + 1 ∧
    (lines text.toList)[i]? = some line ∧
    r.message = s!"Line {n}: {reason}{quoted (trim line)}"

/-- There is a record for every note. -/
theorem debugRecords_eq (text elapsed : String) : debugRecords text elapsed =
    (read text).notes.map fun note => ⟨.debug, readingOrigin, note.message⟩ := by
  have hall : ∀ record ∈ (read text).notes.map fun note =>
      (⟨.debug, readingOrigin, note.message⟩ : Log.Record), (record.level == .debug) = true := by
    intro record hrecord
    obtain ⟨note, -, rfl⟩ := List.mem_map.1 hrecord
    rfl
  rw [debugRecords, Reading.log, List.cons_append, List.filter_cons_of_neg (by decide),
    List.filter_append, List.filter_eq_self.2 hall]
  exact List.append_nil _

/-- **Every line is accounted for.**  The entities, their attributes, the relationships, the lines
that close a block and the records for debugging are together as many as the lines that are not
silent.  The records cite different lines, in the order of the text. -/
theorem lines_accounted (text elapsed : String) :
    (parse text).entities.length + ((parse text).entities.flatMap (·.attributes)).length +
        (parse text).relationships.length +
        (lines text.toList).countP (fun line => trim line == ['}']) +
        (debugRecords text elapsed).length =
      (lines text.toList).countP (fun line => !isSilent (trim line)) ∧
    ∃ numbers : List Nat, numbers.Pairwise (· < ·) ∧
      List.Forall₂ (Cites text) numbers (debugRecords text elapsed) := by
  rw [debugRecords_eq]
  constructor
  · have hwaiting := waiting_statementsFrom 1 (lines text.toList)
    have hlength := length_eq (statements text)
    rw [statements, hwaiting, length_statementsFrom, count_closing_statementsFrom] at hlength
    rw [hlength, List.length_map, List.length_nil, Nat.zero_add]
    rfl
  · refine ⟨(read text).notes.map Note.line,
      List.pairwise_map.2 (pairwise_line none 1 (lines text.toList)), ?_⟩
    rw [List.forall₂_map_left_iff, List.forall₂_map_right_iff, List.forall₂_same]
    intro note hnote
    obtain ⟨i, line, hline, hi, htext⟩ := exists_line_of_mem (mem_filterMap_note?.1 hnote)
    obtain ⟨reason, hmessage⟩ := message_eq note
    rw [htext] at hmessage
    exact ⟨i, line, reason, by omega, hline, hmessage⟩

end Diagram
end Entigram
