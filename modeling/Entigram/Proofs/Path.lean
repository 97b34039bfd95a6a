import Entigram.Path
import Entigram.Proofs.Text.Pieces

/-!
# Paths that were read

Reading a path leaves a normal form of it (`IsNormal`): one of three roots, and names that are
names.  A path of this form is read back from its text (`IsNormal.ofString_toString`), also the
empty one, which is written as a point.

What reading drops are slashes, points and nothing else, so other characters stand in the names of a
path as often as in its text (`countP_names`).
-/

set_option autoImplicit false

namespace Entigram
namespace Path

open Text

/-- The form that paths have when they were read. -/
structure IsNormal (p : Path) : Prop where
  root : p.root = "" ∨ p.root = "/" ∨ p.root = "//"
  names : ∀ n ∈ p.names, n ≠ "" ∧ n ≠ "." ∧ '/' ∉ n.toList

/-- **A path that was read has normal form.** -/
theorem isNormal_ofString (s : String) : (ofString s).IsNormal := by
  constructor
  · dsimp only [ofString, rootOf]
    split <;> simp
  · intro n hn
    obtain ⟨hmem, hkept⟩ := List.mem_filter.1 hn
    obtain ⟨piece, hpiece, rfl⟩ := List.mem_map.1 hmem
    rw [Bool.and_eq_true, decide_eq_true_eq, decide_eq_true_eq] at hkept
    refine ⟨hkept.1, hkept.2, fun hslash => ?_⟩
    rw [String.toList_ofList] at hslash
    exact of_decide_eq_false (mem_of_mem_splitWhere hpiece hslash).2 rfl

/-! ## Roots -/

section root

variable {root : String} (hroot : root = "" ∨ root = "/" ∨ root = "//") (body : List Char)

include hroot

theorem rootOf_append (hbody : body.head? ≠ some '/') : rootOf (root.toList ++ body) = root := by
  have hnone : body.takeWhile (· = '/') = [] := by
    cases body with
    | nil => rfl
    | cons c body => exact List.takeWhile_cons_of_neg (by simpa using hbody)
  rcases hroot with rfl | rfl | rfl <;> simp [rootOf, hnone]

/-- The slashes of a root leave no names. -/
theorem filter_splitWhere_root :
    ((splitWhere (· = '/') (root.toList ++ body)).map String.ofList).filter
        (fun n => n ≠ "" && n ≠ ".") =
      ((splitWhere (· = '/') body).map String.ofList).filter (fun n => n ≠ "" && n ≠ ".") := by
  rcases hroot with rfl | rfl | rfl <;> simp [splitWhere]

end root

/-! ## Paths and their texts -/

section text

variable {p : Path}

/-- The names of a path, joined. -/
def body (p : Path) : List Char := ['/'].intercalate (p.names.map String.toList)

theorem toList_toString (h : p.root ≠ "" ∨ p.names ≠ []) :
    p.toString.toList = p.root.toList ++ p.body := by
  have hfull : ¬(p.root = "" && p.names.isEmpty) = true := by simpa [or_iff_not_imp_left] using h
  rw [toString, if_neg hfull, String.toList_append, String.toList_intercalate]
  rfl

theorem head?_body (h : p.IsNormal) : p.body.head? = none ∧ p.names = [] ∨
    ∃ c, p.body.head? = some c ∧ c ≠ '/' := by
  rw [body]
  cases hnames : p.names with
  | nil => exact .inl ⟨rfl, rfl⟩
  | cons n names =>
    obtain ⟨hne, -, hslash⟩ := h.names n (by rw [hnames]; exact List.mem_cons_self)
    refine .inr ?_
    cases hn : n.toList with
    | nil => exact absurd (String.toList_eq_nil_iff.1 hn) hne
    | cons c cs =>
      rw [hn] at hslash
      refine ⟨c, ?_, (List.ne_of_not_mem_cons hslash).symm⟩
      cases names with
      | nil => rw [List.map_singleton, List.intercalate_singleton, hn]; rfl
      | cons next names => rw [List.map_cons, List.map_cons, List.intercalate_cons_cons, hn]; rfl

theorem filter_splitWhere_body (h : p.IsNormal) :
    ((splitWhere (· = '/') p.body).map String.ofList).filter (fun n => n ≠ "" && n ≠ ".") =
      p.names := by
  rw [body]
  by_cases hnames : p.names = []
  · rw [hnames]
    rfl
  · have hid : String.ofList ∘ String.toList = id := funext fun _ => String.ofList_toList
    rw [splitWhere_intercalate (by decide) (by simpa using hnames), List.map_map, hid, List.map_id,
      List.filter_eq_self]
    · intro n hn
      obtain ⟨hempty, hpoint, -⟩ := h.names n hn
      simp [hempty, hpoint]
    · intro piece hpiece c hc
      obtain ⟨n, hn, rfl⟩ := List.mem_map.1 hpiece
      exact decide_eq_false fun hslash => (h.names n hn).2.2 (hslash ▸ hc)

/-- A path of normal form is not written as nothing. -/
theorem IsNormal.toString_ne (h : p.IsNormal) : p.toString ≠ "" := by
  by_cases hfull : p.root ≠ "" ∨ p.names ≠ []
  · rw [Ne, ← String.toList_eq_nil_iff, toList_toString hfull, List.append_eq_nil_iff]
    rintro ⟨hroot, hbody⟩
    rcases head?_body h with ⟨-, hnames⟩ | ⟨c, hc, -⟩
    · exact hfull.elim (fun hne => hne (String.toList_eq_nil_iff.1 hroot)) fun hne => hne hnames
    · rw [hbody] at hc
      cases hc
  · rw [not_or, not_not, not_not] at hfull
    simp [toString, hfull.1, hfull.2]

/-- **A path of normal form is read back from its text.** -/
theorem IsNormal.ofString_toString (h : p.IsNormal) : ofString p.toString = p := by
  by_cases hfull : p.root ≠ "" ∨ p.names ≠ []
  · have hhead : p.body.head? ≠ some '/' := by
      rcases head?_body h with ⟨hnone, -⟩ | ⟨c, hc, hslash⟩
      · rw [hnone]
        exact nofun
      · rw [hc]
        exact fun hsame => hslash (Option.some_inj.1 hsame)
    rw [ofString, toList_toString hfull, rootOf_append h.root _ hhead,
      filter_splitWhere_root h.root, filter_splitWhere_body h]
  · rw [not_or, not_not, not_not] at hfull
    obtain ⟨root, names⟩ := p
    obtain ⟨rfl, rfl⟩ := hfull
    decide +kernel

end text

/-! ## Characters of names -/

/-- **Reading a path drops slashes, points and nothing else.** -/
theorem countP_names {p : Char → Bool} (hslash : p '/' = false) (hpoint : p '.' = false)
    (s : String) : ((ofString s).names.flatMap String.toList).countP p = s.toList.countP p := by
  have hkept : ∀ names : List String,
      ((names.filter fun n => n ≠ "" && n ≠ ".").flatMap String.toList).countP p =
        (names.flatMap String.toList).countP p := by
    intro names
    induction names with
    | nil => rfl
    | cons n names ih =>
      rw [List.flatMap_cons, List.countP_append, ← ih]
      by_cases hn : n ≠ "" ∧ n ≠ "."
      · rw [List.filter_cons_of_pos (by simpa using hn), List.flatMap_cons, List.countP_append]
      · have hnone : n.toList.countP p = 0 := by
          rcases Decidable.not_and_iff_not_or_not.1 hn with h | h
          · rw [not_not.1 h]
            rfl
          · rw [not_not.1 h, show ".".toList = ['.'] from rfl, List.countP_singleton, hpoint]
            rfl
        rw [List.filter_cons_of_neg (by simpa using hn), hnone, Nat.zero_add]
  have hpieces : ((splitWhere (· = '/') s.toList).map String.ofList).flatMap String.toList =
      s.toList.filter fun c => !decide (c = '/') := by
    rw [← flatten_splitWhere, List.flatMap_map]
    simp [List.flatMap_id']
  rw [ofString, hkept, hpieces, List.countP_filter]
  refine List.countP_congr fun c _ => ?_
  rw [Bool.and_eq_true, and_iff_left_iff_imp]
  intro hc
  simpa using ne_of_apply_ne p (by rw [hc, hslash]; decide)

end Path
end Entigram
