import Entigram.Template
import Entigram.Proofs.Attempt

/-!
# Templates, taken apart and resolved

How a template goes on after its first character is told by what comes next: a doubled brace is one
to keep, a brace that closes nothing is out of order, and so is one that opens a placeholder if no
closing brace follows (`piecesFrom_of_not_mem`).

Resolving comes to a text just if no brace is out of order and every piece comes to one
(`resolve_eq_ok_iff`), whatever the order in which faults are found.
-/

set_option autoImplicit false

namespace Entigram
namespace Template

open Attempt

/-! ## Taking apart -/

section pieces

variable {cs : List Char} {c : Char}

/-- Without a closing brace a placeholder does not end, however far it is read. -/
theorem piecesFrom_of_not_mem {reading : Reading} (hbrace : '}' ∉ cs)
    (hreading : reading ≠ .outside) : piecesFrom reading cs = ([], false) := by
  fun_induction piecesFrom reading cs with
  | case13 read c cs ih =>
    refine ih (fun hmem => hbrace (List.mem_cons_of_mem c hmem)) ?_
    split <;> exact nofun
  | _ => simp_all

theorem pieces_cons (hopening : c ≠ '{') (hclosing : c ≠ '}') :
    pieces (c :: cs) = (pieces cs).map (.keep c :: ·) id := by
  rw [pieces, piecesFrom, if_neg hopening, if_neg hclosing]
  · rfl
  · exact fun _ h _ => hopening h
  · exact fun _ h _ => hclosing h

theorem pieces_openings (cs : List Char) :
    pieces ('{' :: '{' :: cs) = (pieces cs).map (.keep '{' :: ·) id := rfl

theorem pieces_closings (cs : List Char) :
    pieces ('}' :: '}' :: cs) = (pieces cs).map (.keep '}' :: ·) id := rfl

/-- A single opening brace begins a placeholder. -/
theorem pieces_opening (h : cs.head? ≠ some '{') :
    pieces ('{' :: cs) = piecesFrom (.name []) cs := by
  rw [pieces, piecesFrom, if_pos rfl]
  · rintro rest - rfl
    exact h rfl
  · exact fun _ h _ => absurd h (by decide)

/-- A single closing brace is out of order. -/
theorem pieces_closing (h : cs.head? ≠ some '}') : pieces ('}' :: cs) = ([], false) := by
  rw [pieces, piecesFrom, if_neg (by decide), if_pos rfl]
  · exact fun _ h _ => absurd h (by decide)
  · rintro rest - rfl
    exact h rfl

end pieces

/-! ## Resolving -/

variable {address : Value → String} {values : String → Option Value}

/-- What a piece of a template comes to. -/
def Piece.text (address : Value → String) (values : String → Option Value) :
    Piece → Except Fault (List Char)
  | .keep c => .ok [c]
  | .field f => do
    let v ← f.value address values
    v.written address
      (← if f.format.contains '{' then resolveChars address values 1 f.format else .ok f.format)

theorem resolveChars_two (cs : List Char) :
    resolveChars address values 2 cs =
      (pieces cs).1.mapM (Piece.text address values) >>= fun texts =>
        if (pieces cs).2 then .ok texts.flatten else .error .malformed := rfl

/-- **A template is resolved** if all its braces are in order and every piece comes to a text. -/
theorem resolve_eq_ok_iff {template s : String} : resolve address values template = .ok s ↔
    (pieces template.toList).2 = true ∧ ∃ texts : List (List Char),
      (pieces template.toList).1.map (Piece.text address values) = texts.map .ok ∧
        String.ofList texts.flatten = s := by
  rw [resolve, resolveChars_two, map_eq_ok_iff]
  simp only [bind_eq_ok_iff, mapM_eq_ok_iff]
  constructor
  · rintro ⟨cs, ⟨texts, htexts, hcs⟩, rfl⟩
    split at hcs
    · next horder =>
      obtain rfl := Except.ok.inj hcs
      exact ⟨horder, texts, htexts, rfl⟩
    · cases hcs
  · rintro ⟨horder, texts, htexts, rfl⟩
    exact ⟨_, ⟨texts, htexts, if_pos horder⟩, rfl⟩

/-- A text that is to be written in no special way is written as it is. -/
theorem written_text (address : Value → String) (cs : List Char) :
    (Value.text cs).written address [] = .ok cs := by
  have hlayout : Layout.ofChars? [] = some {} := rfl
  have htext : ({} : Layout).text? cs = some cs := by
    simp [Layout.text?, Layout.field, Layout.missing, Layout.filling]
  rw [Value.written, Value.inLayout, hlayout]
  simp only [htext]
  rfl

end Template
end Entigram
