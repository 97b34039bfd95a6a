import Mathlib.Data.List.Basic
import Entigram.Text.Blank
import Entigram.Text.WordChar

/-!
# Pieces of text

What comes of a text that was put together when it is cut again.  Lines, words and the pieces
between doubled characters are cut by one recursion each, so each comes down to two facts: what
stands before a separator is a piece, and what has no separator is a single piece.

Lines need more, as they are also cut in texts of any form.  A line feed may fall behind a line that
has its end already, and behind a carriage return it even becomes a part of that end.  So what is
known of a text in front of a line feed is this: its lines stay, at most an empty one is added to
them, and behind the line feed everything begins anew (`exists_lines_append_lineFeed`).

Nothing that a name is made of is white space (`isBlank_of_isWordChar`), which is why blanks keep
names apart.

What was put together can also be compared without being cut: if two lists are equal and each has a
first entry that is not of some sort, then these are at the same place, and the lists agree before
it and behind it (`append_cons_inj`).
-/

set_option autoImplicit false

namespace Entigram
namespace Text

theorem prepend_ne_nil (c : Char) (ps : List (List Char)) : prepend c ps ≠ [] := by
  cases ps <;> simp [prepend]

theorem flatten_prepend (c : Char) (ps : List (List Char)) :
    (prepend c ps).flatten = c :: ps.flatten := by
  cases ps <;> rfl

theorem prepend_append {ps : List (List Char)} (h : ps ≠ []) (c : Char) (qs : List (List Char)) :
    prepend c (ps ++ qs) = prepend c ps ++ qs := by
  cases ps with
  | nil => contradiction
  | cons p ps => rfl

/-- What is joined has no characters but those of the pieces and of the separator. -/
theorem mem_intercalate {sep : List Char} {ps : List (List Char)} {c : Char}
    (h : c ∈ sep.intercalate ps) : c ∈ sep ∨ ∃ p ∈ ps, c ∈ p := by
  induction ps with
  | nil => cases h
  | cons p ps ih =>
    cases ps with
    | nil => exact .inr ⟨p, List.mem_singleton_self p, by simpa using h⟩
    | cons q ps =>
      rw [List.intercalate_cons_cons, List.mem_append, List.mem_append] at h
      rcases h with (h | h) | h
      · exact .inr ⟨p, List.mem_cons_self, h⟩
      · exact .inl h
      · exact (ih h).imp_right fun ⟨p', hp', hc⟩ => ⟨p', List.mem_cons_of_mem p hp', hc⟩

/-! ## Cutting in one way only -/

section cut

variable {α : Type} {P : α → Prop} {xs ys rest rest' : List α} {a b : α}

/-- A list falls apart in one way at its first entry that is not of some sort. -/
theorem append_cons_inj (hxs : ∀ x ∈ xs, P x) (hys : ∀ y ∈ ys, P y) (ha : ¬P a) (hb : ¬P b)
    (h : xs ++ a :: rest = ys ++ b :: rest') : xs = ys ∧ a = b ∧ rest = rest' := by
  induction xs generalizing ys with
  | nil =>
    cases ys with
    | nil => exact ⟨rfl, List.cons.inj h⟩
    | cons y ys =>
      obtain ⟨rfl, -⟩ := List.cons.inj h
      exact absurd (hys a List.mem_cons_self) ha
  | cons x xs ih =>
    obtain ⟨hx, hxs⟩ := List.forall_mem_cons.1 hxs
    cases ys with
    | nil =>
      obtain ⟨rfl, -⟩ := List.cons.inj h
      exact absurd hx hb
    | cons y ys =>
      obtain ⟨rfl, htail⟩ := List.cons.inj h
      obtain ⟨rfl, hcut⟩ := ih hxs (List.forall_mem_cons.1 hys).2 htail
      exact ⟨rfl, hcut⟩

/-- And so it does at the last one. -/
theorem append_cons_inj_right (hrest : ∀ x ∈ rest, P x) (hrest' : ∀ y ∈ rest', P y) (ha : ¬P a)
    (hb : ¬P b) (h : xs ++ a :: rest = ys ++ b :: rest') : xs = ys ∧ a = b ∧ rest = rest' := by
  have hrev := congrArg List.reverse h
  rw [List.reverse_append, List.reverse_append, List.reverse_cons, List.reverse_cons,
    List.append_assoc, List.append_assoc] at hrev
  obtain ⟨hrests, hab, hlists⟩ := append_cons_inj (P := P) (fun x hx => hrest x (by simpa using hx))
    (fun y hy => hrest' y (by simpa using hy)) ha hb hrev
  exact ⟨List.reverse_inj.1 hlists, hab, List.reverse_inj.1 hrests⟩

end cut

/-- Pieces are told by what they are joined to, if the last character of the separator is neither in
front of it nor in a piece. -/
theorem intercalate_concat_inj {front : List Char} {b : Char} {ps qs : List (List Char)}
    (hfront : b ∉ front) (hps : ∀ p ∈ ps, p ≠ [] ∧ b ∉ p) (hqs : ∀ q ∈ qs, q ≠ [] ∧ b ∉ q)
    (h : (front ++ [b]).intercalate ps = (front ++ [b]).intercalate qs) : ps = qs := by
  induction ps generalizing qs with
  | nil =>
    match qs with
    | [] => rfl
    | [q] => exact absurd (by simpa using h.symm) (hqs q List.mem_cons_self).1
    | q :: q' :: qs => simp [List.intercalate_cons_cons] at h
  | cons p ps ih =>
    obtain ⟨⟨hpne, hp⟩, hps⟩ := List.forall_mem_cons.1 hps
    match ps, qs with
    | [], [] => exact absurd (by simpa using h) hpne
    | [], [q] => simpa using h
    | [], q :: q' :: qs =>
      -- the left side is one piece, in which the separator cannot be
      rw [List.intercalate_singleton, List.intercalate_cons_cons] at h
      exact absurd (by simp [h]) hp
    | p' :: ps, [] => simp [List.intercalate_cons_cons] at h
    | p' :: ps, [q] =>
      rw [List.intercalate_singleton, List.intercalate_cons_cons] at h
      exact absurd (by simp [← h]) (hqs q List.mem_cons_self).2
    | p' :: ps, q :: q' :: qs =>
      obtain ⟨⟨-, hq⟩, hqs⟩ := List.forall_mem_cons.1 hqs
      rw [List.intercalate_cons_cons, List.intercalate_cons_cons] at h
      have hcut : (p ++ front) ++ b :: (front ++ [b]).intercalate (p' :: ps) =
          (q ++ front) ++ b :: (front ++ [b]).intercalate (q' :: qs) := by simpa using h
      have hbefore : ∀ {r : List Char}, b ∉ r → ∀ c ∈ r ++ front, c ≠ b := fun hr c hc =>
        ne_of_mem_of_not_mem hc (by simp [hr, hfront])
      obtain ⟨hpq, -, hrest⟩ := append_cons_inj (P := (· ≠ b)) (hbefore hp) (hbefore hq)
        (fun hb => hb rfl) (fun hb => hb rfl) hcut
      rw [List.append_cancel_right hpq, ih hps hqs hrest]

/-! ## What pieces are made of -/

section members

variable {c d : Char} {piece : List Char}

theorem mem_prepend {ps : List (List Char)} (hpiece : piece ∈ prepend d ps) (hc : c ∈ piece) :
    c = d ∨ ∃ p ∈ ps, c ∈ p := by
  cases ps with
  | nil =>
    obtain rfl := List.mem_singleton.1 hpiece
    exact .inl (List.mem_singleton.1 hc)
  | cons p ps =>
    rcases List.mem_cons.1 hpiece with rfl | hpiece
    · exact (List.mem_cons.1 hc).imp_right fun hc => ⟨p, List.mem_cons_self, hc⟩
    · exact .inr ⟨piece, List.mem_cons_of_mem p hpiece, hc⟩

/-- A piece that gets a character is a piece of its own or was one before. -/
theorem mem_prepend_cases {ps : List (List Char)} (hpiece : piece ∈ prepend d ps) :
    piece = [d] ∨ (∃ p ∈ ps, piece = d :: p) ∨ piece ∈ ps := by
  cases ps with
  | nil => exact .inl (List.mem_singleton.1 hpiece)
  | cons p ps =>
    rcases List.mem_cons.1 hpiece with rfl | hpiece
    · exact .inr (.inl ⟨p, List.mem_cons_self, rfl⟩)
    · exact .inr (.inr (List.mem_cons_of_mem p hpiece))

/-- A line has nothing that is not in the text, and has it in the same order. -/
theorem sublist_of_mem_lines {cs : List Char} (hpiece : piece ∈ lines cs) : piece.Sublist cs := by
  induction cs using lines.induct generalizing piece with
  | case1 => cases hpiece
  | case2 cs ih =>
    rcases List.mem_cons.1 hpiece with rfl | hpiece
    · exact List.nil_sublist _
    · exact ((ih hpiece).cons _).cons _
  | case3 d cs hseam hbreak ih =>
    rw [lines, if_pos hbreak] at hpiece
    · rcases List.mem_cons.1 hpiece with rfl | hpiece
      · exact List.nil_sublist _
      · exact (ih hpiece).cons _
    · exact hseam
  | case4 d cs hseam hbreak ih =>
    rw [lines, if_neg hbreak] at hpiece
    · rcases mem_prepend_cases hpiece with rfl | ⟨p, hp, rfl⟩ | hpiece
      · exact (List.nil_sublist cs).cons_cons d
      · exact (ih hp).cons_cons d
      · exact (ih hpiece).cons d
    · exact hseam

/-- No line break is inside a line. -/
theorem isLineBreak_of_mem_lines {cs : List Char} (hpiece : piece ∈ lines cs) (hc : c ∈ piece) :
    isLineBreak c = false := by
  induction cs using lines.induct generalizing piece with
  | case1 => cases hpiece
  | case2 cs ih =>
    rcases List.mem_cons.1 hpiece with rfl | hpiece
    · cases hc
    · exact ih hpiece hc
  | case3 d cs hseam hbreak ih =>
    rw [lines, if_pos hbreak] at hpiece
    · rcases List.mem_cons.1 hpiece with rfl | hpiece
      · cases hc
      · exact ih hpiece hc
    · exact hseam
  | case4 d cs hseam hbreak ih =>
    rw [lines, if_neg hbreak] at hpiece
    · rcases mem_prepend hpiece hc with rfl | ⟨p, hp, hc⟩
      · exact Bool.eq_false_iff.2 hbreak
      · exact ih hp hc
    · exact hseam

theorem mem_of_mem_words {cs : List Char} (hpiece : piece ∈ words cs) (hc : c ∈ piece) :
    c ∈ cs := by
  induction cs generalizing piece with
  | nil => cases hpiece
  | cons d cs ih =>
    rw [words] at hpiece
    split at hpiece
    · exact List.mem_cons_of_mem d (ih hpiece hc)
    · split at hpiece
      · rcases List.mem_cons.1 hpiece with rfl | hpiece
        · rw [List.mem_singleton.1 hc]
          exact List.mem_cons_self
        · exact List.mem_cons_of_mem d (ih hpiece hc)
      · rcases mem_prepend hpiece hc with rfl | ⟨p, hp, hc⟩
        · exact List.mem_cons_self
        · exact List.mem_cons_of_mem d (ih hp hc)

/-- A word is not empty, and has no white space. -/
theorem blankless_of_mem_words {cs : List Char} (hpiece : piece ∈ words cs) :
    piece ≠ [] ∧ ∀ c ∈ piece, isBlank c = false := by
  induction cs generalizing piece with
  | nil => cases hpiece
  | cons d cs ih =>
    rw [words] at hpiece
    split at hpiece
    · exact ih hpiece
    · next hd =>
      have hfirst : isBlank d = false := Bool.eq_false_iff.2 hd
      have hsingle : [d] ≠ [] ∧ ∀ c ∈ [d], isBlank c = false :=
        ⟨List.cons_ne_nil d [], List.forall_mem_singleton.2 hfirst⟩
      split at hpiece
      · rcases List.mem_cons.1 hpiece with rfl | hpiece
        · exact hsingle
        · exact ih hpiece
      · rcases mem_prepend_cases hpiece with rfl | ⟨p, hp, rfl⟩ | hpiece
        · exact hsingle
        · exact ⟨List.cons_ne_nil d p, List.forall_mem_cons.2 ⟨hfirst, (ih hp).2⟩⟩
        · exact ih hpiece

/-- Nothing that cuts is inside a piece. -/
theorem mem_of_mem_splitWhere {p : Char → Bool} {cs : List Char} (hpiece : piece ∈ splitWhere p cs)
    (hc : c ∈ piece) : c ∈ cs ∧ p c = false := by
  induction cs generalizing piece with
  | nil =>
    obtain rfl := List.mem_singleton.1 hpiece
    cases hc
  | cons d cs ih =>
    have hlater : ∀ {piece}, piece ∈ splitWhere p cs → c ∈ piece → c ∈ d :: cs ∧ p c = false :=
      fun hpiece hc => (ih hpiece hc).imp_left (List.mem_cons_of_mem d)
    rw [splitWhere] at hpiece
    split at hpiece
    · rcases List.mem_cons.1 hpiece with rfl | hpiece
      · cases hc
      · exact hlater hpiece hc
    · next hd =>
      rcases mem_prepend hpiece hc with rfl | ⟨q, hq, hc⟩
      · exact ⟨List.mem_cons_self, Bool.eq_false_iff.2 hd⟩
      · exact hlater hq hc

/-- What does not cut is in a piece. -/
theorem exists_mem_splitWhere {p : Char → Bool} {cs : List Char} (hc : c ∈ cs) :
    p c = true ∨ ∃ piece ∈ splitWhere p cs, c ∈ piece := by
  induction cs with
  | nil => cases hc
  | cons d cs ih =>
    rw [splitWhere]
    rcases List.mem_cons.1 hc with rfl | hc
    · split
      · next hcuts => exact .inl hcuts
      · cases splitWhere p cs with
        | nil => exact .inr ⟨[c], by simp [prepend]⟩
        | cons first rest => exact .inr ⟨c :: first, by simp [prepend]⟩
    · refine (ih hc).imp_right fun ⟨piece, hpiece, hc⟩ => ?_
      split
      · exact ⟨piece, List.mem_cons_of_mem [] hpiece, hc⟩
      · cases hsplit : splitWhere p cs with
        | nil => simp [hsplit] at hpiece
        | cons first rest =>
          rcases List.mem_cons.1 (hsplit ▸ hpiece) with rfl | hpiece
          · exact ⟨d :: piece, List.mem_cons_self, List.mem_cons_of_mem d hc⟩
          · exact ⟨piece, List.mem_cons_of_mem _ hpiece, hc⟩

theorem mem_of_mem_trimWhile {p : Char → Bool} {cs : List Char} (h : c ∈ trimWhile p cs) :
    c ∈ cs := by
  rw [trimWhile, trimEndWhile, List.mem_reverse] at h
  have hstart := List.mem_reverse.1 ((List.dropWhile_sublist p).subset h)
  exact (List.dropWhile_sublist p).subset hstart

end members

/-! ## Pieces between separators -/

section split

variable {p : Char → Bool}

theorem splitWhere_ne_nil (p : Char → Bool) (cs : List Char) : splitWhere p cs ≠ [] := by
  cases cs with
  | nil => exact List.cons_ne_nil _ _
  | cons c cs =>
    rw [splitWhere]
    split
    · exact List.cons_ne_nil _ _
    · exact prepend_ne_nil c _

/-- At a separator everything begins anew. -/
theorem splitWhere_append_cons {c : Char} (h : p c = true) (before after : List Char) :
    splitWhere p (before ++ c :: after) = splitWhere p before ++ splitWhere p after := by
  induction before with
  | nil => simp [splitWhere, h]
  | cons d before ih =>
    rw [List.cons_append, splitWhere, splitWhere, ih]
    split
    · rw [List.cons_append]
    · exact prepend_append (splitWhere_ne_nil p before) d _

/-- What has no separator is a single piece. -/
theorem splitWhere_eq_singleton {cs : List Char} (h : ∀ c ∈ cs, p c = false) :
    splitWhere p cs = [cs] := by
  induction cs with
  | nil => rfl
  | cons c cs ih =>
    obtain ⟨hc, hcs⟩ := List.forall_mem_cons.1 h
    rw [splitWhere, if_neg (Bool.eq_false_iff.1 hc), ih hcs]
    rfl

/-- Pieces that are joined by a separator are read back. -/
theorem splitWhere_intercalate {c : Char} (hc : p c = true) {ps : List (List Char)} (hne : ps ≠ [])
    (h : ∀ piece ∈ ps, ∀ d ∈ piece, p d = false) : splitWhere p ([c].intercalate ps) = ps := by
  induction ps with
  | nil => exact absurd rfl hne
  | cons piece ps ih =>
    obtain ⟨hpiece, hps⟩ := List.forall_mem_cons.1 h
    cases ps with
    | nil => rw [List.intercalate_singleton, splitWhere_eq_singleton hpiece]
    | cons next ps =>
      rw [List.intercalate_cons_cons, List.append_assoc, List.singleton_append,
        splitWhere_append_cons hc, splitWhere_eq_singleton hpiece, ih (List.cons_ne_nil _ _) hps]
      rfl

/-- Pieces between equal separators, joined by it, are the text. -/
theorem intercalate_splitWhere (d : Char) (cs : List Char) :
    [d].intercalate (splitWhere (· = d) cs) = cs := by
  induction cs with
  | nil => rfl
  | cons c cs ih =>
    rw [splitWhere]
    cases hsplit : splitWhere (· = d) cs with
    | nil => exact absurd hsplit (splitWhere_ne_nil _ cs)
    | cons first rest =>
      rw [hsplit] at ih
      split
      · next hc =>
        rw [List.intercalate_cons_cons, ih, of_decide_eq_true hc]
        rfl
      · cases rest with
        | nil => rw [prepend, List.intercalate_singleton, ← ih, List.intercalate_singleton]
        | cons next rest =>
          rw [prepend, List.intercalate_cons_cons, ← ih, List.intercalate_cons_cons]
          rfl

/-- Cutting leaves out what it cuts at, and nothing else. -/
theorem flatten_splitWhere (p : Char → Bool) (cs : List Char) :
    (splitWhere p cs).flatten = cs.filter fun c => !p c := by
  induction cs with
  | nil => rfl
  | cons c cs ih =>
    rw [splitWhere]
    split
    · next h => rw [List.flatten_cons, List.nil_append, ih, List.filter_cons_of_neg (by simp [h])]
    · next h => rw [flatten_prepend, ih, List.filter_cons_of_pos (by simpa using h)]

/-- Other characters in the pieces, as long as they cut as before, change nothing but the pieces. -/
theorem splitWhere_map (f : Char → Char) (cs : List Char) :
    splitWhere p (cs.map f) = (splitWhere (p ∘ f) cs).map (List.map f) := by
  induction cs with
  | nil => rfl
  | cons c cs ih =>
    rw [List.map_cons, splitWhere, splitWhere, ih, Function.comp_apply]
    split
    · rfl
    · cases splitWhere (p ∘ f) cs <;> rfl

end split

/-! ## Lines of any text -/

/-- Unless a carriage return meets a line feed, a line end is one character. -/
theorem lines_cons {c : Char} {cs : List Char} (h : c = '\r' → cs.head? ≠ some '\n') :
    lines (c :: cs) = if isLineBreak c then [] :: lines cs else prepend c (lines cs) := by
  rw [lines]
  rintro rest rfl rfl
  exact h rfl rfl

/-- A text that is not empty has a line. -/
theorem lines_ne_nil {cs : List Char} (h : cs ≠ []) : lines cs ≠ [] := by
  induction cs using lines.induct with
  | case1 => contradiction
  | case2 cs ih => simp [lines]
  | case3 c cs hseam hbreak ih => simp [lines, hbreak]
  | case4 c cs hseam hbreak ih => simp [lines, hbreak, prepend_ne_nil]

/-- **A line feed cuts a text.**  Behind it the lines begin anew.  Before it they are those of the
text there, with an empty one after them if the last of them had its end already. -/
theorem exists_lines_append_lineFeed (before : List Char) :
    ∃ gap : List (List Char), (∀ line ∈ gap, line = []) ∧
      ∀ after, lines (before ++ '\n' :: after) = lines before ++ gap ++ lines after := by
  induction before using lines.induct with
  | case1 => exact ⟨[[]], by simp, fun after => rfl⟩
  | case2 cs ih =>
    obtain ⟨gap, hgap, ih⟩ := ih
    exact ⟨gap, hgap, fun after => by simp [lines, ih]⟩
  | case3 c cs hseam hbreak ih =>
    obtain ⟨gap, hgap, ih⟩ := ih
    cases cs with
    | nil =>
      -- the line feed is a part of this line end, or ends an empty line after it
      by_cases hc : c = '\r'
      · subst hc
        exact ⟨[], by simp, fun after => rfl⟩
      · refine ⟨[[]], by simp, fun after => ?_⟩
        rw [List.singleton_append, lines_cons fun h => absurd h hc,
          lines_cons fun h => absurd h hc, if_pos hbreak, if_pos hbreak]
        rfl
    | cons d cs =>
      have hd : c = '\r' → d ≠ '\n' := by
        rintro rfl rfl
        exact hseam cs rfl rfl
      refine ⟨gap, hgap, fun after => ?_⟩
      rw [List.cons_append, lines_cons (by simpa using hd), lines_cons (by simpa using hd),
        if_pos hbreak, if_pos hbreak, ih]
      rfl
  | case4 c cs hseam hbreak ih =>
    have hc : c ≠ '\r' := by
      rintro rfl
      exact hbreak (by decide)
    obtain ⟨gap, hgap, ih⟩ := ih
    cases cs with
    | nil =>
      -- the line feed ends this line
      refine ⟨[], by simp, fun after => ?_⟩
      rw [List.singleton_append, lines_cons fun h => absurd h hc,
        lines_cons fun h => absurd h hc, if_neg hbreak, if_neg hbreak]
      rfl
    | cons d cs =>
      refine ⟨gap, hgap, fun after => ?_⟩
      rw [List.cons_append, lines_cons fun h => absurd h hc, lines_cons fun h => absurd h hc,
        if_neg hbreak, if_neg hbreak, ih, List.append_assoc,
        prepend_append (lines_ne_nil (List.cons_ne_nil d cs)), List.append_assoc]

/-! ## Lines that were joined -/

section joined

variable {line : List Char}

theorem lines_cons_of_not_isLineBreak {c : Char} (h : isLineBreak c = false) (cs : List Char) :
    lines (c :: cs) = prepend c (lines cs) := by
  have hreturn : c ≠ '\r' := by
    rintro rfl
    exact absurd h (by decide)
  rw [lines_cons fun hc => absurd hc hreturn, h]
  rfl

theorem lines_append_lineFeed (h : ∀ c ∈ line, isLineBreak c = false) (rest : List Char) :
    lines (line ++ '\n' :: rest) = line :: lines rest := by
  induction line with
  | nil => rfl
  | cons c line ih =>
    obtain ⟨hc, hline⟩ := List.forall_mem_cons.1 h
    rw [List.cons_append, lines_cons_of_not_isLineBreak hc, ih hline]
    rfl

theorem lines_eq_singleton (h : ∀ c ∈ line, isLineBreak c = false) (hne : line ≠ []) :
    lines line = [line] := by
  induction line with
  | nil => exact absurd rfl hne
  | cons c line ih =>
    obtain ⟨hc, hline⟩ := List.forall_mem_cons.1 h
    rw [lines_cons_of_not_isLineBreak hc]
    cases line with
    | nil => rfl
    | cons d line =>
      rw [ih hline (List.cons_ne_nil d line)]
      rfl

/-- Lines that are joined by line feeds are read back. -/
theorem lines_intercalate {ls : List (List Char)}
    (h : ∀ line ∈ ls, line ≠ [] ∧ ∀ c ∈ line, isLineBreak c = false) :
    lines (['\n'].intercalate ls) = ls := by
  induction ls with
  | nil => rfl
  | cons line ls ih =>
    obtain ⟨⟨hne, hline⟩, hls⟩ := List.forall_mem_cons.1 h
    cases ls with
    | nil => simpa using lines_eq_singleton hline hne
    | cons next ls =>
      rw [List.intercalate_cons_cons, List.append_assoc, List.singleton_append,
        lines_append_lineFeed hline, ih hls]

end joined

/-! ## Trimming -/

section trim

variable {p : Char → Bool}

/-- Nothing is trimmed from a text whose ends are kept. -/
theorem trimWhile_eq_self {cs : List Char} (hfirst : ∀ c ∈ cs.head?, p c = false)
    (hlast : ∀ c ∈ cs.getLast?, p c = false) : trimWhile p cs = cs := by
  have hstart : trimStartWhile p cs = cs := by
    rw [trimStartWhile]
    cases cs with
    | nil => rfl
    | cons c cs => exact List.dropWhile_cons_of_neg (by simp [hfirst c rfl])
  rw [trimWhile, hstart, trimEndWhile]
  cases hrev : cs.reverse with
  | nil => simpa using hrev.symm
  | cons c rest =>
    have hc : c ∈ cs.getLast? := by simp [← List.head?_reverse, hrev]
    rw [List.dropWhile_cons_of_neg (by simp [hlast c hc]), ← hrev, List.reverse_reverse]

/-- What is left of a text begins and ends with something that is kept. -/
theorem ends_trimWhile (p : Char → Bool) (cs : List Char) :
    (∀ c ∈ (trimWhile p cs).head?, p c = false) ∧
      ∀ c ∈ (trimWhile p cs).getLast?, p c = false := by
  have hdrop : ∀ xs : List Char, ∀ c ∈ (xs.dropWhile p).head?, p c = false := by
    intro xs c hc
    have hkept := List.head?_dropWhile_not p xs
    rw [Option.mem_def.1 hc] at hkept
    simpa using hkept
  constructor
  · intro c hc
    -- cutting off the end leaves the beginning as it is
    refine hdrop cs c ?_
    have hsplit := List.takeWhile_append_dropWhile (p := p) (l := (cs.dropWhile p).reverse)
    rw [← List.reverse_inj, List.reverse_append, List.reverse_reverse] at hsplit
    rw [trimWhile, trimEndWhile, trimStartWhile, Option.mem_def] at hc
    rw [← hsplit, List.head?_append, hc]
    rfl
  · intro c hc
    rw [trimWhile, trimEndWhile, List.getLast?_reverse] at hc
    exact hdrop _ c hc

/-- What is trimmed away may as well be missing, in front. -/
theorem trimWhile_append {front : List Char} (h : ∀ c ∈ front, p c = true) (cs : List Char) :
    trimWhile p (front ++ cs) = trimWhile p cs := by
  rw [trimWhile, trimStartWhile, List.dropWhile_append_of_pos h]
  rfl

/-- What is trimmed away may as well be missing, at the end. -/
theorem trimWhile_concat {c : Char} (h : p c = true) (cs : List Char) :
    trimWhile p (cs ++ [c]) = trimWhile p cs := by
  rw [trimWhile, trimWhile, trimStartWhile, trimStartWhile, List.dropWhile_append]
  split
  · next hempty =>
    rw [List.dropWhile_cons_of_pos h, List.isEmpty_iff.1 hempty]
    rfl
  · rw [trimEndWhile, trimEndWhile, List.reverse_append, List.reverse_singleton,
      List.singleton_append, List.dropWhile_cons_of_pos h]

/-- The end is trimmed up to the last character that is kept. -/
theorem trimEndWhile_append_cons {c : Char} (h : p c = false) (front rest : List Char) :
    trimEndWhile p (front ++ c :: rest) = front ++ c :: trimEndWhile p rest := by
  rw [trimEndWhile, trimEndWhile, List.reverse_append, List.reverse_cons, List.append_assoc,
    List.dropWhile_append]
  split
  · next hempty =>
    rw [List.singleton_append, List.dropWhile_cons_of_neg (by simp [h]), List.isEmpty_iff.1 hempty]
    simp
  · simp

/-- A last character that is kept stays the last. -/
theorem getLast?_trimWhile_concat {c : Char} (h : p c = false) (cs : List Char) :
    (trimWhile p (cs ++ [c])).getLast? = some c := by
  have hstart : ∃ front, trimStartWhile p (cs ++ [c]) = front ++ [c] := by
    rw [trimStartWhile, List.dropWhile_append]
    split
    · exact ⟨[], List.dropWhile_cons_of_neg (by simp [h])⟩
    · exact ⟨_, rfl⟩
  obtain ⟨front, hfront⟩ := hstart
  rw [trimWhile, hfront, trimEndWhile_append_cons h]
  exact List.getLast?_concat

theorem trimWhile_map (f : Char → Char) (cs : List Char) :
    trimWhile p (cs.map f) = (trimWhile (p ∘ f) cs).map f := by
  simp only [trimWhile, trimStartWhile, trimEndWhile, List.dropWhile_map, ← List.map_reverse]

/-- Trimming the end first changes nothing. -/
theorem trimWhile_trimEndWhile (p : Char → Bool) (cs : List Char) :
    trimWhile p (trimEndWhile p cs) = trimWhile p cs := by
  have hback : ∀ back front : List Char, (∀ c ∈ back, p c = true) →
      trimWhile p (front ++ back) = trimWhile p front := by
    intro back
    induction back with
    | nil => exact fun front _ => by rw [List.append_nil]
    | cons c back ih =>
      intro front hp
      obtain ⟨hc, hp⟩ := List.forall_mem_cons.1 hp
      rw [List.append_cons, ih _ hp, trimWhile_concat hc]
  have hsplit := List.takeWhile_append_dropWhile (p := p) (l := cs.reverse)
  rw [← List.reverse_inj, List.reverse_append, List.reverse_reverse] at hsplit
  conv_rhs => rw [← hsplit]
  refine (hback _ _ fun c hc => ?_).symm
  exact List.all_eq_true.1 List.all_takeWhile c (List.mem_reverse.1 hc)

end trim

/-! ## Words that were joined -/

section words

variable {word : List Char}

theorem words_append_blank {c : Char} (hne : word ≠ []) (h : ∀ c ∈ word, isBlank c = false)
    (hc : isBlank c = true) (rest : List Char) :
    words (word ++ c :: rest) = word :: words rest := by
  induction word with
  | nil => contradiction
  | cons d word ih =>
    obtain ⟨hd, hword⟩ := List.forall_mem_cons.1 h
    cases word with
    | nil => simp [words, hd, hc]
    | cons e word =>
      rw [List.cons_append, words, ih (List.cons_ne_nil e word) hword]
      simp [hd, hword e List.mem_cons_self, prepend]

theorem words_eq_singleton (hne : word ≠ []) (h : ∀ c ∈ word, isBlank c = false) :
    words word = [word] := by
  induction word with
  | nil => contradiction
  | cons d word ih =>
    obtain ⟨hd, hword⟩ := List.forall_mem_cons.1 h
    cases word with
    | nil => simp [words, hd]
    | cons e word =>
      rw [words, ih (List.cons_ne_nil e word) hword]
      simp [hd, hword e List.mem_cons_self, prepend]

/-- Words that are joined by spaces are read back. -/
theorem words_intercalate {ws : List (List Char)}
    (h : ∀ w ∈ ws, w ≠ [] ∧ ∀ c ∈ w, isBlank c = false) : words ([' '].intercalate ws) = ws := by
  induction ws with
  | nil => rfl
  | cons w ws ih =>
    obtain ⟨⟨hne, hw⟩, hws⟩ := List.forall_mem_cons.1 h
    cases ws with
    | nil => simpa using words_eq_singleton hne hw
    | cons next ws =>
      rw [List.intercalate_cons_cons, List.append_assoc, List.singleton_append,
        words_append_blank hne hw (by decide), ih hws]

end words

/-! ## Pieces between pairs -/

section pairs

variable {d : Char}

theorem splitPairs_cons {c : Char} (h : c ≠ d) (cs : List Char) :
    splitPairs d (c :: cs) = prepend c (splitPairs d cs) := by
  cases cs with
  | nil => rfl
  | cons c' cs => rw [splitPairs, if_neg fun hpair => h hpair.1]

theorem splitPairs_append_pair {before : List Char} (h : ∀ c ∈ before, c ≠ d)
    (after : List Char) :
    splitPairs d (before ++ d :: d :: after) = before :: splitPairs d after := by
  induction before with
  | nil => simp [splitPairs]
  | cons c before ih =>
    obtain ⟨hc, hbefore⟩ := List.forall_mem_cons.1 h
    rw [List.cons_append, splitPairs_cons hc, ih hbefore]
    rfl

theorem splitPairs_eq_singleton {cs : List Char} (h : ∀ c ∈ cs, c ≠ d) :
    splitPairs d cs = [cs] := by
  induction cs with
  | nil => rfl
  | cons c cs ih =>
    obtain ⟨hc, hcs⟩ := List.forall_mem_cons.1 h
    rw [splitPairs_cons hc, ih hcs]
    rfl

end pairs

/-! ## Letters and blanks -/

/-- The code points of white space. -/
def blankCodes : List Nat :=
  List.range' 0x9 5 ++ List.range' 0x1C 5 ++ [0x85, 0xA0, 0x1680] ++ List.range' 0x2000 11 ++
    [0x2028, 0x2029, 0x202F, 0x205F, 0x3000]

theorem mem_blankCodes {c : Char} (h : isBlank c = true) : c.toNat ∈ blankCodes := by
  simp only [isBlank, CharSet.contains, blanks, CharSet.flips_cons, CharSet.flips_nil,
    Bool.and_eq_true, Bool.not_eq_true', decide_eq_true_eq, Bool.and_eq_false_iff,
    decide_eq_false_iff_not, Bool.not_eq_false', Bool.not_false, Bool.true_eq_false,
    or_false] at h
  simp only [blankCodes, List.mem_append, List.mem_range'_1, List.mem_cons, List.not_mem_nil,
    or_false]
  omega

/-- Nothing that a name is made of is white space. -/
theorem isBlank_of_isWordChar {c : Char} (h : isWordChar c = true) : isBlank c = false := by
  have hcodes : ∀ n ∈ blankCodes, CharSet.flips wordChars.bounds n = false := by decide +kernel
  refine Bool.eq_false_iff.2 fun hblank => ?_
  rw [isWordChar, CharSet.contains, hcodes _ (mem_blankCodes hblank)] at h
  cases h

end Text
end Entigram
