import Entigram.Config.LogFile
import Entigram.Proofs.Config.Checked
import Entigram.Proofs.Path
import Entigram.Proofs.Template

/-!
# Path templates that are accepted

The path of the log file is a template, and two readers see it.  The check looks for placeholders,
each from a brace to the next closing one, and knows three (`Placeholder`).  Resolving reads the
whole as a template, with doubled braces for single ones and placeholders of any form.  So what the
check sees nothing in may still mean something when the path is resolved: a placeholder without a
name, and braces that are no part of a placeholder.

What was accepted is read here a third time, as characters and known placeholders (`partsOf`), which
is what it is meant to be.  The check leaves few ways for a template to go on (`Known`,
`known_of_seesKnown`), and in each of them it is plain what resolving makes of the next part
(`readAs_of_known`).  So both readings agree if there are no braces among the characters, and
otherwise it is told by how these stand: resolving fails unless they stand in pairs, and of a pair
it leaves one (`resolvedPath_exact`).
-/

set_option autoImplicit false

namespace Entigram
namespace Config

open Text Template Attempt

/-! ## Parts of a path template -/

/-- What a path template can mention. -/
inductive Placeholder
  | environment
  | date
  | datetime
deriving DecidableEq

namespace Placeholder

def name : Placeholder → String
  | environment => "environment"
  | date => "date"
  | datetime => "datetime"

def all : List Placeholder := [environment, date, datetime]

/-- A placeholder as it stands in a template. -/
def written (p : Placeholder) : List Char := '{' :: p.name.toList ++ ['}']

/-- What a placeholder stands for. -/
def value (environment : String) (now : Moment) : Placeholder → String
  | .environment => environment
  | .date => now.compactDate
  | .datetime => now.compact

/-- The placeholder that a text begins with. -/
def atFront? (cs : List Char) : Option Placeholder := all.find? fun p => p.written.isPrefixOf cs

end Placeholder

/-- Is the character a brace? -/
def isBrace (c : Char) : Bool := c = '{' || c = '}'

/-- A part of a path template: a placeholder, or any other character. -/
inductive PathPart
  | char (c : Char)
  | value (p : Placeholder)
deriving DecidableEq

namespace PathPart

/-- Is this a brace that is not of a placeholder? -/
def isBrace : PathPart → Bool
  | char c => Config.isBrace c
  | value _ => false

/-- The text that a part becomes: characters are kept. -/
def text (environment : String) (now : Moment) : PathPart → List Char
  | char c => [c]
  | value p => (p.value environment now).toList

/-- A part in its doubled form: only braces are doubled. -/
def doubled (p : PathPart) : List PathPart := if p.isBrace then [p, p] else [p]

/-- The piece of a template that is meant. -/
def piece : PathPart → Piece
  | char c => .keep c
  | value p => .field { name := p.name.toList }

end PathPart

/-- The parts of a text.  As many characters as are given belong to a placeholder in front. -/
def partsFrom : Nat → List Char → List PathPart
  | _, [] => []
  | behind + 1, _ :: cs => partsFrom behind cs
  | 0, c :: cs =>
    match Placeholder.atFront? (c :: cs) with
    | some p => .value p :: partsFrom (p.written.length - 1) cs
    | none => .char c :: partsFrom 0 cs

/-- The parts of a path template. -/
def partsOf (cs : List Char) : List PathPart := partsFrom 0 cs

/-- Parts with every placeholder replaced by its value and every other character kept. -/
def filled (environment : String) (now : Moment) (ps : List PathPart) : String :=
  String.ofList (ps.flatMap (PathPart.text environment now))

/-- Parts with each brace doubled. -/
def doubled (ps : List PathPart) : List PathPart := ps.flatMap PathPart.doubled

section parts

variable {cs : List Char} {c : Char}

/-- What begins with a placeholder. -/
theorem exists_of_atFront? {p : Placeholder} (h : Placeholder.atFront? cs = some p) :
    ∃ rest, cs = p.written ++ rest := by
  have hprefix := List.find?_some h
  obtain ⟨rest, hrest⟩ := List.isPrefixOf_iff_prefix.1 hprefix
  exact ⟨rest, hrest.symm⟩

theorem partsOf_written (p : Placeholder) (cs : List Char) :
    partsOf (p.written ++ cs) = .value p :: partsOf cs := by
  cases p <;> rfl

/-- What a placeholder has behind its first brace. -/
theorem behind_written (p : Placeholder) (rest : List Char) :
    p.written ++ rest = '{' :: (p.name.toList ++ '}' :: rest) ∧
      (p.name.toList ++ '}' :: rest).head? ≠ some '}' := by
  refine ⟨by rw [Placeholder.written, List.append_assoc]; rfl, ?_⟩
  cases p <;> exact fun h => absurd (Option.some_inj.1 h) (by decide)

/-- A character does not begin a placeholder, unless it is a brace with a closing one behind it, but
not next to it. -/
theorem atFront?_eq_none (h : c = '{' → '}' ∉ cs ∨ cs.head? = some '}') :
    Placeholder.atFront? (c :: cs) = none := by
  rw [Option.eq_none_iff_forall_ne_some]
  intro p hp
  obtain ⟨rest, hrest⟩ := exists_of_atFront? hp
  obtain ⟨hwritten, hhead⟩ := behind_written p rest
  obtain ⟨hc, rfl⟩ := List.cons.inj (hrest.trans hwritten)
  rcases h hc with h | h
  · exact h (List.mem_append_right _ List.mem_cons_self)
  · exact hhead h

theorem partsOf_char (h : c = '{' → '}' ∉ cs ∨ cs.head? = some '}') :
    partsOf (c :: cs) = .char c :: partsOf cs := by
  rw [partsOf, partsFrom, atFront?_eq_none h]
  rfl

theorem head?_partsOf (h : (partsOf cs).head? = some (.char c)) : cs.head? = some c := by
  cases cs with
  | nil => cases h
  | cons d cs =>
    rw [partsOf, partsFrom] at h
    split at h
    · cases h
    · cases h
      rfl

end parts

/-! ## What is accepted -/

/-- How templates go on that mention nothing but known placeholders, told apart by how they are
resolved. -/
inductive Known : List Char → Prop
  | nil : Known []
  | char {c : Char} {cs : List Char} (hopening : c ≠ '{') (hclosing : c ≠ '}') (h : Known cs) :
    Known (c :: cs)
  | value (p : Placeholder) {cs : List Char} (h : Known cs) : Known (p.written ++ cs)
  | nameless (cs : List Char) : Known ('{' :: '}' :: cs)
  | closings {cs : List Char} (h : Known cs) : Known ('}' :: '}' :: cs)
  | closing {cs : List Char} (hhead : cs.head? ≠ some '}') : Known ('}' :: cs)
  | openings {cs : List Char} (hunclosed : '}' ∉ cs) (h : Known cs) : Known ('{' :: '{' :: cs)
  | opening {cs : List Char} (hunclosed : '}' ∉ cs) (hhead : cs.head? ≠ some '{') :
    Known ('{' :: cs)

/-- The placeholders that the check sees are known ones. -/
def SeesKnown (cs : List Char) : Prop :=
  ∀ seen ∈ placeholdersFrom none cs, ∃ p : Placeholder, seen = p.written

theorem mem_knownPlaceholders {s : String} (h : s ∈ knownPlaceholders) :
    ∃ p : Placeholder, s.toList = p.written := by
  have hall : ∀ s ∈ knownPlaceholders, ∃ p ∈ Placeholder.all, s.toList = p.written := by decide
  exact (hall s h).imp fun _ => And.right

/-- **The check of path templates** lets through what it sees only known placeholders in. -/
theorem seesKnown_of_pathTemplate {v : Json} {template : String}
    (h : pathTemplate v = .ok template) : SeesKnown template.toList := by
  obtain ⟨t, -, ht⟩ := Checked.andThen_eq_ok_iff.1 h
  dsimp only at ht
  split at ht
  · next hunknown =>
    obtain rfl := Checked.ok.inj ht
    intro seen hseen
    rw [List.isEmpty_iff, List.filter_eq_nil_iff] at hunknown
    have hknown := hunknown _ (List.mem_map_of_mem hseen)
    rw [Bool.not_eq_true', Bool.not_eq_false, List.contains_iff_mem] at hknown
    obtain ⟨p, hp⟩ := mem_knownPlaceholders hknown
    exact ⟨p, by rwa [String.toList_ofList] at hp⟩
  · cases ht

/-- Without a closing brace no placeholder is seen. -/
theorem placeholdersFrom_of_not_mem {cs : List Char} (h : '}' ∉ cs) (read : Option (List Char)) :
    placeholdersFrom read cs = [] := by
  induction cs generalizing read with
  | nil => cases read <;> rfl
  | cons c cs ih =>
    obtain ⟨hc, hcs⟩ := not_or.1 (mt List.mem_cons.2 h)
    cases read with
    | none => exact ih hcs _
    | some name =>
      rw [placeholdersFrom, if_neg (Ne.symm hc)]
      exact ih hcs _

/-- A placeholder ends at the next closing brace, and is none if it has no name. -/
theorem placeholdersFrom_append {name : List Char} (h : '}' ∉ name) (read rest : List Char) :
    placeholdersFrom (some read) (name ++ '}' :: rest) =
      if (read.reverse ++ name).isEmpty then placeholdersFrom none rest
      else ('{' :: (read.reverse ++ name) ++ ['}']) :: placeholdersFrom none rest := by
  induction name generalizing read with
  | nil =>
    rw [List.nil_append, placeholdersFrom, if_pos rfl, List.append_nil, List.isEmpty_reverse]
  | cons c name ih =>
    obtain ⟨hc, hname⟩ := not_or.1 (mt List.mem_cons.2 h)
    rw [List.cons_append, placeholdersFrom, if_neg (Ne.symm hc), ih hname, List.reverse_cons,
      List.append_assoc, List.singleton_append]

section known

variable {c : Char} {cs : List Char}

/-- How a template goes on at an opening brace. -/
theorem known_opening (h : SeesKnown ('{' :: cs))
    (ih : ∀ rest : List Char, rest.length ≤ cs.length → SeesKnown rest → Known rest) :
    Known ('{' :: cs) := by
  have hsees : ∀ seen ∈ placeholdersFrom (some []) cs, ∃ p : Placeholder, seen = p.written := h
  by_cases hclosed : '}' ∈ cs
  · obtain ⟨name, rest, rfl, hname⟩ := List.eq_append_cons_of_mem hclosed
    rw [placeholdersFrom_append hname] at hsees
    cases name with
    | nil =>
      -- a placeholder that the check does not see
      exact .nameless rest
    | cons d name =>
      obtain ⟨⟨p, hp⟩, hrest⟩ := List.forall_mem_cons.1 hsees
      have hwritten : '{' :: (d :: name ++ '}' :: rest) = p.written ++ rest := by
        rw [← hp]
        simp
      rw [hwritten]
      refine .value p (ih rest ?_ hrest)
      simp only [List.length_append, List.length_cons]
      omega
  · by_cases hhead : cs.head? = some '{'
    · obtain ⟨rest, rfl⟩ := List.head?_eq_some_iff.1 hhead
      have hunclosed : '}' ∉ rest := fun hmem => hclosed (List.mem_cons_of_mem _ hmem)
      refine .openings hunclosed (ih rest (Nat.le_succ _) ?_)
      rw [SeesKnown, placeholdersFrom_of_not_mem hunclosed]
      exact List.forall_mem_nil _
    · exact .opening hclosed hhead

/-- How it goes on at a closing brace. -/
theorem known_closing (h : SeesKnown ('}' :: cs))
    (ih : ∀ rest : List Char, rest.length ≤ cs.length → SeesKnown rest → Known rest) :
    Known ('}' :: cs) := by
  by_cases hhead : cs.head? = some '}'
  · obtain ⟨rest, rfl⟩ := List.head?_eq_some_iff.1 hhead
    exact .closings (ih rest (Nat.le_succ _) h)
  · exact .closing hhead

/-- **What is seen in a template tells how it goes on.** -/
theorem known_of_seesKnown (h : SeesKnown cs) : Known cs := by
  induction hlength : cs.length using Nat.strongRecOn generalizing cs with
  | _ n ih =>
    cases cs with
    | nil => exact .nil
    | cons c cs =>
      have ih : ∀ rest : List Char, rest.length ≤ cs.length → SeesKnown rest → Known rest :=
        fun rest hrest hsees => ih _ (hlength ▸ Nat.lt_succ_of_le hrest) hsees rfl
      by_cases hopening : c = '{'
      · subst hopening
        exact known_opening h ih
      · by_cases hclosing : c = '}'
        · subst hclosing
          exact known_closing h ih
        · refine .char hopening hclosing (ih cs (Nat.le_refl _) ?_)
          rwa [SeesKnown, placeholdersFrom, if_neg hopening] at h

end known

/-! ## How it is resolved -/

section doubled

variable {p : PathPart} {ps qs : List PathPart}

theorem doubled_cons (p : PathPart) (ps : List PathPart) :
    doubled (p :: ps) = p.doubled ++ doubled ps := rfl

theorem head?_doubled_append (p : PathPart) (qs : List PathPart) :
    (p.doubled ++ qs).head? = some p := by
  rw [PathPart.doubled]
  split <;> rfl

theorem doubled_eq_singleton (h : p.isBrace = false) : p.doubled = [p] :=
  if_neg (Bool.eq_false_iff.1 h)

/-- What begins with a part in its doubled form goes on with parts in theirs. -/
theorem exists_of_append_eq_doubled (h : p.doubled ++ qs = doubled ps) :
    ∃ rest, ps = p :: rest ∧ qs = doubled rest := by
  have hhead := congrArg List.head? h
  rw [head?_doubled_append] at hhead
  cases ps with
  | nil => cases hhead
  | cons p' ps =>
    rw [doubled_cons, head?_doubled_append] at hhead
    obtain rfl := Option.some_inj.1 hhead
    exact ⟨ps, rfl, List.append_cancel_left h⟩

theorem doubled_inj (h : doubled ps = doubled qs) : ps = qs := by
  induction ps generalizing qs with
  | nil =>
    cases qs with
    | nil => rfl
    | cons q qs =>
      have hhead := congrArg List.head? h
      rw [doubled_cons, head?_doubled_append] at hhead
      cases hhead
  | cons p ps ih =>
    obtain ⟨rest, rfl, hrest⟩ := exists_of_append_eq_doubled h
    rw [ih hrest]

/-- No parts have a single brace in their doubled form. -/
theorem ne_doubled (hbrace : p.isBrace = true) (hhead : qs.head? ≠ some p) :
    p :: qs ≠ doubled ps := by
  intro h
  cases ps with
  | nil => cases h
  | cons p' ps =>
    rw [doubled_cons] at h
    have hsame := congrArg List.head? h
    rw [head?_doubled_append] at hsame
    obtain rfl := Option.some_inj.1 hsame
    rw [PathPart.doubled, if_pos hbrace] at h
    obtain ⟨-, rfl⟩ := List.cons.inj h
    exact hhead rfl

end doubled

/-- A placeholder without a name. -/
def namelessPiece : Piece := .field { name := [] }

/-- What resolving makes of parts: pieces that are meant with each brace doubled, or a fault. -/
inductive ReadAs : List PathPart → List Piece × Bool → Prop
  | meant (ps : List PathPart) : ReadAs (doubled ps) (ps.map PathPart.piece, true)
  | faulty {qs : List PathPart} {pieces : List Piece × Bool} (hqs : ∀ ps, qs ≠ doubled ps)
    (hpieces : pieces.2 = false ∨ namelessPiece ∈ pieces.1) : ReadAs qs pieces

theorem ReadAs.cons {qs : List PathPart} {pieces : List Piece × Bool} (p : PathPart)
    (h : ReadAs qs pieces) : ReadAs (p.doubled ++ qs) (pieces.map (p.piece :: ·) id) := by
  cases h with
  | meant ps => exact .meant (p :: ps)
  | faulty hqs hpieces =>
    refine .faulty (fun ps h => ?_) (hpieces.imp id (List.mem_cons_of_mem _))
    obtain ⟨rest, -, hrest⟩ := exists_of_append_eq_doubled h
    exact hqs rest hrest

/-- **Both readers agree on what is known**, up to the braces. -/
theorem readAs_of_known {cs : List Char} (h : Known cs) : ReadAs (partsOf cs) (pieces cs) := by
  induction h with
  | nil => exact .meant []
  | @char c cs hopening hclosing _ ih =>
    have hkept : (PathPart.char c).isBrace = false := by
      rw [PathPart.isBrace, isBrace, decide_eq_false hopening, decide_eq_false hclosing]
      rfl
    have hread := ih.cons (.char c)
    rw [doubled_eq_singleton hkept] at hread
    rw [partsOf_char fun h => absurd h hopening, pieces_cons hopening hclosing]
    exact hread
  | value p _ ih =>
    rw [partsOf_written]
    cases p <;> exact ih.cons (.value _)
  | nameless cs =>
    rw [partsOf_char fun _ => .inr rfl]
    exact .faulty (fun ps => ne_doubled rfl fun hhead => nomatch head?_partsOf hhead)
      (.inr List.mem_cons_self)
  | closings _ ih =>
    rw [partsOf_char fun h => absurd h (by decide), partsOf_char fun h => absurd h (by decide),
      pieces_closings]
    exact ih.cons (.char '}')
  | closing hhead =>
    rw [partsOf_char fun h => absurd h (by decide), pieces_closing hhead]
    exact .faulty (fun ps => ne_doubled rfl fun h => hhead (head?_partsOf h)) (.inl rfl)
  | openings hunclosed _ ih =>
    rw [partsOf_char fun _ => .inl (by simpa using hunclosed), partsOf_char fun _ => .inl hunclosed,
      pieces_openings]
    exact ih.cons (.char '{')
  | opening hunclosed hhead =>
    rw [partsOf_char fun _ => .inl hunclosed, pieces_opening hhead,
      piecesFrom_of_not_mem hunclosed Reading.noConfusion]
    exact .faulty (fun ps => ne_doubled rfl fun h => hhead (head?_partsOf h)) (.inl rfl)

/-! ## Resolved paths -/

section resolved

variable (address : Value → String) (environment : String) (now : Moment)

/-- A placeholder is for its value. -/
theorem value_name (p : Placeholder) :
    Field.value { name := p.name.toList } address (placeholderValue environment now) =
      .ok (.ofString (p.value environment now)) := by
  cases p <;> rfl

/-- What is meant by a part is what its piece is resolved to. -/
theorem text_piece (p : PathPart) :
    p.piece.text address (placeholderValue environment now) = .ok (p.text environment now) := by
  cases p with
  | char c => rfl
  | value p =>
    rw [PathPart.piece, Piece.text, value_name]
    exact written_text address _

/-- A placeholder without a name is resolved to nothing. -/
theorem text_namelessPiece :
    namelessPiece.text address (placeholderValue environment now) = .error .unnamed := rfl

variable {f : FileLogging}

/-- **When a path is resolved**, and to what: there are parts of which the template has the doubled
form. -/
theorem resolvedPath_eq_ok_iff (h : SeesKnown f.path.toList) (path : Path) :
    f.resolvedPath address environment now = .ok path ↔ ∃ ps,
      partsOf f.path.toList = doubled ps ∧
        Path.ofString (filled environment now ps) = path := by
  have hread := readAs_of_known (known_of_seesKnown h)
  rw [FileLogging.resolvedPath, map_eq_ok_iff]
  simp only [resolve_eq_ok_iff]
  revert hread
  generalize partsOf f.path.toList = qs
  generalize pieces f.path.toList = read
  intro hread
  cases hread with
  | meant ps =>
    have htexts : (ps.map PathPart.piece).map
        (Piece.text address (placeholderValue environment now)) =
        (ps.map (PathPart.text environment now)).map .ok := by
      rw [List.map_map, List.map_map]
      exact List.map_congr_left fun p _ => text_piece address environment now p
    rw [htexts]
    constructor
    · rintro ⟨s, ⟨-, texts, hsame, rfl⟩, rfl⟩
      obtain rfl := List.map_injective_iff.2 (fun _ _ => Except.ok.inj) hsame
      exact ⟨ps, rfl, rfl⟩
    · rintro ⟨ps', hps, rfl⟩
      obtain rfl := doubled_inj hps
      exact ⟨_, ⟨rfl, _, rfl, rfl⟩, rfl⟩
  | faulty hqs hpieces =>
    refine iff_of_false ?_ fun ⟨ps, hps, _⟩ => hqs ps hps
    rintro ⟨s, ⟨horder, texts, htexts, -⟩, -⟩
    rcases hpieces with hdisorder | hnameless
    · rw [hdisorder] at horder
      cases horder
    · have hmem :=
        List.mem_map_of_mem (f := Piece.text address (placeholderValue environment now)) hnameless
      rw [htexts, text_namelessPiece] at hmem
      obtain ⟨text, -, htext⟩ := List.mem_map.1 hmem
      cases htext

/-- Doubled braces are that many more. -/
theorem countP_filled_doubled (ps : List PathPart) :
    (filled environment now (doubled ps)).toList.countP isBrace =
      (filled environment now ps).toList.countP isBrace + ps.countP PathPart.isBrace := by
  have hpart : ∀ p : PathPart, (p.doubled.flatMap (PathPart.text environment now)).countP isBrace =
      (p.text environment now).countP isBrace + if p.isBrace then 1 else 0 := by
    intro p
    rw [PathPart.doubled]
    split
    · next hbrace =>
      cases p with
      | char c =>
        have hc : isBrace c = true := hbrace
        simp [PathPart.text, hc]
      | value p => cases hbrace
    · rw [List.flatMap_singleton, Nat.add_zero]
  rw [filled, filled, String.toList_ofList, String.toList_ofList]
  induction ps with
  | nil => rfl
  | cons p ps ih =>
    rw [doubled_cons, List.flatMap_append, List.countP_append, ih, hpart, List.flatMap_cons,
      List.countP_append, List.countP_cons]
    omega

/-- Without braces nothing is doubled. -/
theorem doubled_eq_self {ps : List PathPart} (h : ∀ p ∈ ps, p.isBrace = false) :
    doubled ps = ps := by
  rw [doubled, List.flatMap_congr fun p hp => doubled_eq_singleton (h p hp),
    List.flatMap_singleton']

/-- **What becomes of an accepted path template.**  It is resolved just if its braces, but those of
placeholders, stand in pairs, that is, if it has the doubled form of some parts; and then to these.
It is resolved to what is meant by it, every placeholder replaced and every other character kept,
just if it has no such braces. -/
theorem resolvedPath_exact {v : Json} (h : pathTemplate v = .ok f.path) :
    (∀ path, f.resolvedPath address environment now = .ok path ↔ ∃ ps,
      partsOf f.path.toList = doubled ps ∧ Path.ofString (filled environment now ps) = path) ∧
    (f.resolvedPath address environment now =
        .ok (Path.ofString (filled environment now (partsOf f.path.toList))) ↔
      ∀ p ∈ partsOf f.path.toList, p.isBrace = false) := by
  have hresolved := resolvedPath_eq_ok_iff address environment now (seesKnown_of_pathTemplate h)
  refine ⟨hresolved, ?_⟩
  rw [hresolved]
  constructor
  · rintro ⟨ps, hps, hpath⟩
    -- paths do not tell texts, but they tell how many braces there are
    have hcount := congrArg (fun path => (path.names.flatMap String.toList).countP isBrace) hpath
    simp only [Path.countP_names (p := isBrace) rfl rfl, hps, countP_filled_doubled] at hcount
    have hnone : ∀ p ∈ ps, p.isBrace = false := by
      have hzero : ps.countP PathPart.isBrace = 0 := by omega
      simpa using List.countP_eq_zero.1 hzero
    rwa [hps, doubled_eq_self hnone]
  · exact fun hnone => ⟨_, (doubled_eq_self hnone).symm, rfl⟩

end resolved

/-- A minute to midnight. -/
def late : Moment := { year := 2024, month := 1, day := 2, hour := 23, minute := 59, second := 0 }

/-- All values are kept in one place. -/
def onePlace : Value → String := fun _ => "0x1000"

/-- A template with placeholders only, and one with a pair of braces behind one. -/
theorem resolvedPath_exact_late :
    ({} : FileLogging).resolvedPath onePlace "test" late =
      .ok ⟨"", ["logs", "er2code_test_20240102.log"]⟩ ∧
    ({ path := "logs/\x7bdate\x7d\x7d\x7d.log" } : FileLogging).resolvedPath onePlace "test" late =
      .ok ⟨"", ["logs", "20240102\x7d.log"]⟩ := by
  constructor
  · have haccepted : pathTemplate (.str (FileLogging.path {})) = .ok (FileLogging.path {}) := by
      decide +kernel
    refine ((resolvedPath_exact onePlace "test" late haccepted).2.2 (by decide +kernel)).trans ?_
    decide +kernel
  · have haccepted : pathTemplate (.str "logs/\x7bdate\x7d\x7d\x7d.log") =
        .ok "logs/\x7bdate\x7d\x7d\x7d.log" := by
      decide +kernel
    refine ((resolvedPath_exact onePlace "test" late haccepted).1 _).2 ⟨"logs/".toList.map .char ++
      .value .date :: "\x7d.log".toList.map .char, ?_, ?_⟩
    · decide +kernel
    · decide +kernel

/-- **A placeholder without a name is accepted**, and then there is no path. -/
theorem nameless_placeholder_accepted :
    pathTemplate (.str "logs/\x7b\x7d.log") = .ok "logs/\x7b\x7d.log" ∧
    ({ path := "logs/\x7b\x7d.log" } : FileLogging).resolvedPath onePlace "test" late =
      .error .unnamed := by
  exact ⟨by decide, by rfl⟩

end Config
end Entigram
