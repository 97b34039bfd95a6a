import Entigram.Proofs.Diagram.Reading
import Entigram.Proofs.Diagram.Writing

/-!
# The shape of what is read

Reading refuses nothing, and still not every schema can come out of it.  Whatever the text, names of
entities have no opening brace, no line break and no blanks around them, attributes are told by two
words, and a relationship has names of word characters, cardinalities of marks, and a label on one
line without quotes around it (`Shaped`).

Each part is shaped by the reader that cuts it out, whatever stands in the line: `attribute?` gives
words, and the two sides of a relationship are cut by `splitLeft` and `splitRight`, which take
nothing into a name or a cardinality that they have not looked at.  Only that there are no line
breaks is told by the line, and so by how the text was cut (`parse_shaped`).
-/

set_option autoImplicit false

namespace Entigram
namespace Diagram

open Text

/-! ## Shapes -/

/-- A word: not empty, and without white space. -/
structure IsRun (s : String) : Prop where
  nonempty : s ≠ ""
  blankless : ∀ c ∈ s.toList, isBlank c = false

/-- The shape of an entity that was read. -/
structure EntityShaped (e : Entity) : Prop where
  braceless : '{' ∉ e.name.toList
  oneLine : ∀ c ∈ e.name.toList, isLineBreak c = false
  trimmed : trim e.name.toList = e.name.toList
  attributes : ∀ a ∈ e.attributes, IsRun a.name ∧ IsRun a.dataType

/-- The shape of a relationship that was read. -/
structure RelationshipShaped (r : Relationship) : Prop where
  source : IsName r.source
  target : IsName r.target
  sourceCardinality : IsCardinality r.sourceCardinality
  targetCardinality : IsCardinality r.targetCardinality
  oneLine : ∀ c ∈ r.label.toList, isLineBreak c = false
  unquotedFirst : r.label.toList.head? ≠ some '"'
  unquotedLast : r.label.toList.getLast? ≠ some '"'

/-- The shape of a schema that was read. -/
structure Shaped (s : Schema) : Prop where
  entities : ∀ e ∈ s.entities, EntityShaped e
  relationships : ∀ r ∈ s.relationships, RelationshipShaped r

/-! ## Names and marks -/

theorem isName_ofList {cs : List Char} (hne : cs ≠ []) (h : ∀ c ∈ cs, isWordChar c = true) :
    IsName (String.ofList cs) where
  nonempty := by simpa using hne
  letters := by simpa using h

theorem isCardinality_ofList {cs : List Char} (hne : cs ≠ []) (h : ∀ c ∈ cs, isMark c = true) :
    IsCardinality (String.ofList cs) where
  nonempty := by simpa using hne
  marks := by simpa using h

variable {cs name marks : List Char}

theorem marks_of_onlyMarks? (h : onlyMarks? cs = some marks) :
    marks ≠ [] ∧ ∀ c ∈ marks, isMark c = true := by
  rw [onlyMarks?] at h
  split at h
  · next hmarks =>
    obtain rfl := Option.some_inj.1 h
    simpa using hmarks
  · cases h

/-- Letters in front and marks at the end. -/
theorem letters_and_marks_of_nameThenMarks? (h : nameThenMarks? cs = some (name, marks)) :
    (name ≠ [] ∧ ∀ c ∈ name, isWordChar c = true) ∧ marks ≠ [] ∧ ∀ c ∈ marks, isMark c = true := by
  induction cs generalizing name with
  | nil => cases h
  | cons c cs ih =>
    rw [nameThenMarks?] at h
    split at h
    · next hc =>
      split at h
      · next later marks' hlater =>
        -- the name goes on behind this letter
        obtain ⟨rfl, rfl⟩ := Prod.mk.inj (Option.some_inj.1 h)
        obtain ⟨⟨-, hletters⟩, hmarks⟩ := ih hlater
        exact ⟨⟨List.cons_ne_nil c later, List.forall_mem_cons.2 ⟨hc, hletters⟩⟩, hmarks⟩
      · obtain ⟨marks', hmarks, heq⟩ := Option.map_eq_some_iff.1 h
        obtain ⟨rfl, rfl⟩ := Prod.mk.inj heq
        exact ⟨⟨List.cons_ne_nil c [], List.forall_mem_singleton.2 hc⟩,
          marks_of_onlyMarks? hmarks⟩
    · cases h

theorem letters_and_marks_of_splitLeftFrom {tried : Bool}
    (h : splitLeftFrom tried cs = some (name, marks)) :
    (name ≠ [] ∧ ∀ c ∈ name, isWordChar c = true) ∧ marks ≠ [] ∧ ∀ c ∈ marks, isMark c = true := by
  induction cs generalizing tried with
  | nil => cases h
  | cons c cs ih =>
    rw [splitLeftFrom] at h
    split at h
    · split at h
      · next found hfound =>
        obtain rfl := Option.some_inj.1 h
        cases tried with
        | true => cases hfound
        | false => exact letters_and_marks_of_nameThenMarks? hfound
      · exact ih h
    · exact ih h

/-- Marks in front and letters behind them. -/
theorem marks_and_letters_of_splitRight (h : splitRight cs = some (marks, name)) :
    (marks ≠ [] ∧ ∀ c ∈ marks, isMark c = true) ∧ name ≠ [] ∧ ∀ c ∈ name, isWordChar c = true := by
  induction cs generalizing marks with
  | nil => cases h
  | cons c cs ih =>
    rw [splitRight] at h
    split at h
    · next hc =>
      split at h
      · next later name' hlater =>
        -- there are more marks behind this one
        obtain ⟨rfl, rfl⟩ := Prod.mk.inj (Option.some_inj.1 h)
        obtain ⟨⟨-, hmarks⟩, hletters⟩ := ih hlater
        exact ⟨⟨List.cons_ne_nil c later, List.forall_mem_cons.2 ⟨hc, hmarks⟩⟩, hletters⟩
      · dsimp only at h
        split at h
        · cases h
        · next hne =>
          obtain ⟨rfl, rfl⟩ := Prod.mk.inj (Option.some_inj.1 h)
          refine ⟨⟨List.cons_ne_nil c [], List.forall_mem_singleton.2 hc⟩,
            by simpa using hne, fun d hd => ?_⟩
          exact List.all_eq_true.1 List.all_takeWhile d hd
    · cases h

/-! ## What a line is read as -/

theorem isRun_of_attribute? {line : List Char} {a : Attribute} (h : attribute? line = some a) :
    IsRun a.name ∧ IsRun a.dataType := by
  have hword : ∀ w ∈ words line, IsRun (String.ofList w) := fun w hw =>
    ⟨by simpa using (blankless_of_mem_words hw).1, by simpa using (blankless_of_mem_words hw).2⟩
  rw [attribute?] at h
  split at h
  · next dataType name rest hwords =>
    obtain rfl := Option.some_inj.1 h
    exact ⟨hword name (by simp [hwords]), hword dataType (by simp [hwords])⟩
  · cases h

/-- What opens a block without line breaks opens the block of a shaped entity. -/
theorem entityShaped_openedName {line : List Char} (h : ∀ c ∈ line, isLineBreak c = false)
    {attributes : List Attribute} (ha : ∀ a ∈ attributes, IsRun a.name ∧ IsRun a.dataType) :
    EntityShaped ⟨openedName line, attributes⟩ := by
  have hmem : ∀ c ∈ (openedName line).toList, c ∈ line ∧ c ≠ '{' := by
    intro c hc
    rw [openedName, String.toList_ofList] at hc
    simpa using mem_of_mem_trimWhile hc
  refine ⟨fun hbrace => (hmem '{' hbrace).2 rfl, fun c hc => h c (hmem c hc).1, ?_, ha⟩
  have hends := ends_trimWhile isBlank (line.filter (· ≠ '{'))
  rw [openedName, String.toList_ofList]
  exact trimWhile_eq_self hends.1 hends.2

theorem relationshipShaped_of_relationship? {line : List Char}
    (h : ∀ c ∈ line, isLineBreak c = false) {r : Relationship} (hr : relationship? line = some r) :
    RelationshipShaped r := by
  rw [relationship?] at hr
  split at hr
  · next left right hsides =>
    split at hr
    · next source sourceMarks targetMarks target hleft hright =>
      obtain rfl := Option.some_inj.1 hr
      obtain ⟨hsource, hsourceMarks⟩ := letters_and_marks_of_splitLeftFrom hleft
      obtain ⟨htargetMarks, htarget⟩ := marks_and_letters_of_splitRight hright
      have hends := ends_trimWhile (· = '"') (trim ((line.dropWhile (· ≠ ':')).drop 1))
      exact {
        source := isName_ofList hsource.1 hsource.2
        target := isName_ofList htarget.1 htarget.2
        sourceCardinality := isCardinality_ofList hsourceMarks.1 hsourceMarks.2
        targetCardinality := isCardinality_ofList htargetMarks.1 htargetMarks.2
        oneLine := fun c hc => by
          rw [String.toList_ofList] at hc
          have hbehind := mem_of_mem_trimWhile (mem_of_mem_trimWhile hc)
          exact h c ((List.dropWhile_sublist _).subset (List.mem_of_mem_drop hbehind))
        unquotedFirst := fun hfirst => by
          rw [String.toList_ofList] at hfirst
          simpa using hends.1 '"' hfirst
        unquotedLast := fun hlast => by
          rw [String.toList_ofList] at hlast
          simpa using hends.2 '"' hlast }
    · cases hr
  · cases hr

/-! ## What a text is read as -/

theorem mem_filterMap_relationship? {ss : List Statement} {r : Relationship} :
    r ∈ ss.filterMap Statement.relationship? ↔ .relationship r ∈ ss := by
  rw [List.mem_filterMap]
  constructor
  · rintro ⟨s, hs, hr⟩
    cases s <;> cases hr
    exact hs
  · exact fun h => ⟨.relationship r, h, rfl⟩

/-- **Everything that is read has its shape**, whatever the text. -/
theorem parse_shaped (text : String) : Shaped (parse text) := by
  have htrimmed : ∀ line ∈ lines text.toList, ∀ c ∈ trim line, isLineBreak c = false :=
    fun line hline c hc => isLineBreak_of_mem_lines hline (mem_of_mem_trimWhile hc)
  constructor
  · intro e he
    obtain ⟨hopening, hattributes⟩ := (mem_of_mem_assembled (statements text)).2 e he
    have hruns : ∀ a ∈ e.attributes, IsRun a.name ∧ IsRun a.dataType := by
      intro a ha
      obtain ⟨line, hline, inside, number, hsays⟩ := says_of_mem_statementsFrom (hattributes a ha)
      match hsays with
      | .attribute _ _ _ hread => exact isRun_of_attribute? hread
    obtain ⟨line, hline, inside, number, hsays⟩ := says_of_mem_statementsFrom hopening
    obtain ⟨name, attributes⟩ := e
    cases hsays
    exact entityShaped_openedName (htrimmed line hline) hruns
  · intro r hr
    obtain ⟨line, hline, inside, number, hsays⟩ :=
      says_of_mem_statementsFrom (mem_filterMap_relationship?.1 hr)
    match hsays with
    | .relationship _ _ _ hread =>
      exact relationshipShaped_of_relationship? (htrimmed line hline) hread

end Diagram
end Entigram
