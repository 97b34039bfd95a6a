import Mathlib.Data.List.Basic
import Entigram.Json.Reader
import Entigram.Json.Text

/-!
# The text of a value tells the value

However values are laid out, two of them do not have the same text (`text_inj`), and none has a text
that begins the text of another: behind the text of a value nothing can follow that would change
what was written before it (`textAt_append_inj`).  Numbers are left out, as one number can begin
another.

* **Strings** end at their first quote without a backslash.  What is between the quotes is what the
  reader for strings gets back from it, character by character (`string?_escaped`).
* **Items** are told from what follows them by one character: a comma if there are more of them, a
  line break or the closing bracket if not (`behindItem_inj`).  So it does not matter what items are
  indented by, nor that brackets around nothing are written without a line break (`enclose_inj`).
* **Values** of different kinds have texts that begin with different characters.
-/

set_option autoImplicit false

namespace Entigram
namespace Json

/-! ## Strings -/

theorem hexValue?_hexDigit (n : Nat) : Reader.hexValue? (hexDigit n) = some (n % 16) :=
  (by decide : ∀ m < 16, Reader.hexValue? (Nat.digitChar m) = some m) _
    (Nat.mod_lt n (by decide))

/-- A control character is read back from its code. -/
theorem unicode?_hexDigit {c : Char} (h : c.toNat < 0x20) (rest : List Char) :
    Reader.unicode? ('0' :: '0' :: hexDigit (c.toNat / 16) :: hexDigit c.toNat :: rest) =
      some (c, rest) := by
  have hzero : Reader.hexValue? '0' = some 0 := by decide
  have hcode : ((0 * 16 + 0) * 16 + c.toNat / 16 % 16) * 16 + c.toNat % 16 = c.toNat := by omega
  have hhex : Reader.hex4?
      ('0' :: '0' :: hexDigit (c.toNat / 16) :: hexDigit c.toNat :: rest) =
        some (c.toNat, rest) := by
    simp only [Reader.hex4?, hzero, hexValue?_hexDigit, Option.bind_eq_bind, Option.bind_some,
      hcode]
    rfl
  have hhigh : ¬(0xD800 ≤ c.toNat ∧ c.toNat < 0xDC00) := by omega
  have hlow : ¬(0xDC00 ≤ c.toNat ∧ c.toNat < 0xE000) := by omega
  simp only [Reader.unicode?, hhex, Option.bind_eq_bind, Option.bind_some, hhigh, hlow, if_false,
    Char.ofNat_toNat]
  rfl

section string

variable (n : Nat) (cs : List Char)

theorem string?_letter {e c : Char} (hu : e ≠ 'u') (he : Reader.escaped? e = some c) :
    Reader.string? (n + 1) ('\\' :: e :: cs) =
      (Reader.string? n cs).map fun p => (c :: p.1, p.2) := by
  rw [Reader.string?.eq_5 _ _ _ hu, he]
  cases Reader.string? n cs <;> rfl

theorem string?_code {c : Char} (h : c.toNat < 0x20) :
    Reader.string? (n + 1)
        ('\\' :: 'u' :: '0' :: '0' :: hexDigit (c.toNat / 16) :: hexDigit c.toNat :: cs) =
      (Reader.string? n cs).map fun p => (c :: p.1, p.2) := by
  rw [Reader.string?, unicode?_hexDigit h, Option.bind_eq_bind, Option.bind_some]
  dsimp only
  cases Reader.string? n cs <;> rfl

theorem string?_plain {c : Char} (hquote : c ≠ '"') (hbackslash : c ≠ '\\')
    (hcontrol : ¬c.toNat < 0x20) :
    Reader.string? (n + 1) (c :: cs) = (Reader.string? n cs).map fun p => (c :: p.1, p.2) := by
  rw [Reader.string?.eq_6 _ _ _ hquote (fun _ h => absurd h hbackslash)
    (fun _ _ h => absurd h hbackslash), if_neg (by simp [hcontrol, hbackslash])]
  cases Reader.string? n cs <;> rfl

/-- What is written for a character is read as this character. -/
theorem string?_escapeChar (c : Char) :
    Reader.string? (n + 1) (escapeChar c ++ cs) =
      (Reader.string? n cs).map fun p => (c :: p.1, p.2) := by
  rw [escapeChar]
  split_ifs with hquote hbackslash hlf hcr htab hbs hff hcontrol
  · subst hquote
    exact string?_letter n cs (by decide) rfl
  · subst hbackslash
    exact string?_letter n cs (by decide) rfl
  · subst hlf
    exact string?_letter n cs (by decide) rfl
  · subst hcr
    exact string?_letter n cs (by decide) rfl
  · subst htab
    exact string?_letter n cs (by decide) rfl
  · rw [← Char.ofNat_toNat c, hbs]
    exact string?_letter n cs (by decide) rfl
  · rw [← Char.ofNat_toNat c, hff]
    exact string?_letter n cs (by decide) rfl
  · exact string?_code n cs hcontrol
  · exact string?_plain n cs hquote hbackslash hcontrol

end string

/-- **What stands between quotes is read back**, up to the quote behind it. -/
theorem string?_escaped (cs rest : List Char) {n : Nat} (h : cs.length < n) :
    Reader.string? n (cs.flatMap escapeChar ++ '"' :: rest) = some (cs, rest) := by
  induction cs generalizing n with
  | nil =>
    obtain ⟨n, rfl⟩ := Nat.exists_eq_succ_of_ne_zero (Nat.ne_zero_of_lt h)
    rfl
  | cons c cs ih =>
    obtain ⟨n, rfl⟩ := Nat.exists_eq_succ_of_ne_zero (Nat.ne_zero_of_lt h)
    rw [List.flatMap_cons, List.append_assoc, Nat.succ_eq_add_one, string?_escapeChar,
      ih (Nat.lt_of_succ_lt_succ h), Option.map_some]

theorem toList_quote (s : String) :
    (quote s).toList = '"' :: (s.toList.flatMap escapeChar ++ ['"']) := by
  rw [quote, String.toList_ofList, List.cons_append]

/-- A string is told by what it is written as, and so is where it ends. -/
theorem quote_append_inj {s t : String} {rest rest' : List Char}
    (h : (quote s).toList ++ rest = (quote t).toList ++ rest') : s = t ∧ rest = rest' := by
  rw [toList_quote, toList_quote, List.cons_append, List.cons_append, List.append_assoc,
    List.append_assoc] at h
  have hlength : s.toList.length < s.toList.length + t.toList.length + 1 ∧
      t.toList.length < s.toList.length + t.toList.length + 1 := by omega
  have hs := string?_escaped s.toList rest hlength.1
  have ht := string?_escaped t.toList rest' hlength.2
  have hsame := (hs.symm.trans (congrArg _ (List.cons.inj h).2)).trans ht
  obtain ⟨hchars, hrest⟩ := Prod.mk.inj (Option.some_inj.1 hsame)
  exact ⟨String.toList_inj.1 hchars, hrest⟩

/-! ## Items between brackets -/

namespace Layout

variable (l : Layout) (depth : Nat)

/-- What is written behind the first of some items: the others, each behind a separator, and the
closing bracket. -/
def behindItem (closing : Char) (items : List (List Char)) : List Char :=
  items.flatMap ((l.separator (depth + 1)).toList ++ ·) ++
    ((l.lineBreak depth).toList ++ [closing])

theorem toList_enclose_nil (opening closing : String) :
    (l.enclose depth opening closing []).toList = opening.toList ++ closing.toList :=
  String.toList_append

theorem toList_enclose_cons (opening : String) {closing : String} {k : Char}
    (hk : closing.toList = [k]) (item : String) (items : List String) :
    (l.enclose depth opening closing (item :: items)).toList = opening.toList ++
      ((l.lineBreak (depth + 1)).toList ++
        (item.toList ++ l.behindItem depth k (items.map String.toList))) := by
  have hjoin : ∀ (sep first : List Char) (more : List (List Char)),
      sep.intercalate (first :: more) = first ++ more.flatMap (sep ++ ·) := by
    intro sep first more
    induction more generalizing first with
    | nil => simp
    | cons next more ih =>
      rw [List.intercalate_cons_cons, ih, List.flatMap_cons]
      simp only [List.append_assoc]
  simp [enclose, behindItem, hjoin, hk, String.toList_intercalate]

/-- A line break is one, or nothing at all. -/
theorem head?_lineBreak_append (cs : List Char) :
    ((l.lineBreak depth).toList ++ cs).head? = some '\n' ∨
      ((l.lineBreak depth).toList ++ cs).head? = cs.head? := by
  cases l with
  | inline => exact .inr rfl
  | lines unit =>
    refine .inl ?_
    rw [lineBreak, String.toList_append, List.append_assoc]
    rfl

theorem head?_separator_append (cs : List Char) :
    ((l.separator depth).toList ++ cs).head? = some ',' := by
  cases l with
  | inline => simp [separator]
  | lines unit =>
    rw [separator, String.toList_append, List.append_assoc]
    rfl

section inj

variable {l depth} {α : Type} {f : α → String} {xs ys : List α} {k : Char} {rest rest' : List Char}

/-- Separated items are told by what they are written as, if each item is and if the closing bracket
is no comma. -/
theorem behindItem_inj (hk : k ≠ ',')
    (hitems : ∀ x ∈ xs, ∀ y ∈ ys, ∀ rest rest',
      (f x).toList ++ rest = (f y).toList ++ rest' → x = y ∧ rest = rest')
    (h : l.behindItem depth k (xs.map fun x => (f x).toList) ++ rest =
      l.behindItem depth k (ys.map fun y => (f y).toList) ++ rest') : xs = ys ∧ rest = rest' := by
  -- where one list has an item more, a separator meets the closing bracket
  have hstop : ∀ (rest cs : List Char),
      (l.lineBreak depth).toList ++ k :: rest ≠ (l.separator (depth + 1)).toList ++ cs := by
    intro rest cs heq
    have hhead := congrArg List.head? heq
    rw [head?_separator_append] at hhead
    rcases l.head?_lineBreak_append depth (k :: rest) with hbreak | hbreak
    · rw [hbreak] at hhead
      exact absurd hhead (by decide)
    · rw [hbreak, List.head?_cons, Option.some_inj] at hhead
      exact hk hhead
  simp only [behindItem, List.append_assoc] at h
  induction xs generalizing ys with
  | nil =>
    cases ys with
    | nil => exact ⟨rfl, by simpa using h⟩
    | cons y ys =>
      simp only [List.map_nil, List.flatMap_nil, List.nil_append, List.map_cons, List.flatMap_cons,
        List.append_assoc, List.singleton_append] at h
      exact absurd h (hstop _ _)
  | cons x xs ih =>
    cases ys with
    | nil =>
      simp only [List.map_nil, List.flatMap_nil, List.nil_append, List.map_cons, List.flatMap_cons,
        List.append_assoc, List.singleton_append] at h
      exact absurd h.symm (hstop _ _)
    | cons y ys =>
      simp only [List.map_cons, List.flatMap_cons, List.append_assoc] at h
      obtain ⟨rfl, hmore⟩ := hitems x List.mem_cons_self y List.mem_cons_self _ _
        (List.append_cancel_left h)
      obtain ⟨rfl, hrest⟩ := ih
        (fun x hx y hy => hitems x (List.mem_cons_of_mem _ hx) y (List.mem_cons_of_mem _ hy)) hmore
      exact ⟨rfl, hrest⟩

/-- **Items between brackets are told by what is written**, if each of them is and if none begins
with the closing bracket. -/
theorem enclose_append_inj {opening closing : String} (hclosing : closing.toList = [k])
    (hcomma : k ≠ ',') (hline : k ≠ '\n')
    (hfirst : ∀ x, x ∈ xs ∨ x ∈ ys → ∃ c, (f x).toList.head? = some c ∧ c ≠ k)
    (hitems : ∀ x ∈ xs, ∀ y ∈ ys, ∀ rest rest',
      (f x).toList ++ rest = (f y).toList ++ rest' → x = y ∧ rest = rest')
    (h : (l.enclose depth opening closing (xs.map f)).toList ++ rest =
      (l.enclose depth opening closing (ys.map f)).toList ++ rest') : xs = ys ∧ rest = rest' := by
  -- brackets around nothing close where other brackets have an item or a line break
  have hempty : ∀ (z : α) (rest cs : List Char), (z ∈ xs ∨ z ∈ ys) →
      k :: rest ≠ (l.lineBreak (depth + 1)).toList ++ ((f z).toList ++ cs) := by
    intro z rest cs hz heq
    have hhead := congrArg List.head? heq
    obtain ⟨c, hc, hck⟩ := hfirst z hz
    rw [List.head?_cons] at hhead
    rcases l.head?_lineBreak_append (depth + 1) ((f z).toList ++ cs) with hbreak | hbreak
    · rw [hbreak, Option.some_inj] at hhead
      exact hline hhead
    · rw [hbreak, List.head?_append, hc, Option.some_or, Option.some_inj] at hhead
      exact hck hhead.symm
  cases xs with
  | nil =>
    cases ys with
    | nil => exact ⟨rfl, List.append_cancel_left h⟩
    | cons y ys =>
      rw [List.map_nil, List.map_cons, toList_enclose_nil, toList_enclose_cons _ _ _ hclosing,
        hclosing] at h
      simp only [List.append_assoc, List.singleton_append] at h
      exact absurd (List.append_cancel_left h) (hempty y _ _ (.inr List.mem_cons_self))
  | cons x xs =>
    cases ys with
    | nil =>
      rw [List.map_nil, List.map_cons, toList_enclose_nil, toList_enclose_cons _ _ _ hclosing,
        hclosing] at h
      simp only [List.append_assoc, List.singleton_append] at h
      exact absurd (List.append_cancel_left h).symm (hempty x _ _ (.inl List.mem_cons_self))
    | cons y ys =>
      rw [List.map_cons, List.map_cons, toList_enclose_cons _ _ _ hclosing,
        toList_enclose_cons _ _ _ hclosing, List.map_map, List.map_map] at h
      simp only [List.append_assoc] at h
      obtain ⟨rfl, hbehind⟩ := hitems x List.mem_cons_self y List.mem_cons_self _ _
        (List.append_cancel_left (List.append_cancel_left h))
      obtain ⟨rfl, hrest⟩ := behindItem_inj hcomma (f := f)
        (fun x hx y hy => hitems x (List.mem_cons_of_mem _ hx) y (List.mem_cons_of_mem _ hy))
        hbehind
      exact ⟨rfl, hrest⟩

end inj
end Layout

/-! ## Values -/

/-- A value without numbers. -/
inductive Numberless : Json → Prop
  | null : Numberless .null
  | bool (b : Bool) : Numberless (.bool b)
  | str (s : String) : Numberless (.str s)
  | arr {items : List Json} (h : ∀ v ∈ items, Numberless v) : Numberless (.arr items)
  | obj {fields : Fields} (h : ∀ f ∈ fields, Numberless f.2) : Numberless (.obj fields)

theorem itemTexts_eq (l : Layout) (depth : Nat) (items : List Json) :
    itemTexts l depth items = items.map (textAt l depth) := by
  induction items with
  | nil => rfl
  | cons v vs ih => rw [itemTexts, ih, List.map_cons]

/-- The text of a field. -/
def fieldText (l : Layout) (depth : Nat) (f : String × Json) : String :=
  quote f.1 ++ ": " ++ textAt l depth f.2

theorem fieldTexts_eq (l : Layout) (depth : Nat) (fields : Fields) :
    fieldTexts l depth fields = fields.map (fieldText l depth) := by
  induction fields with
  | nil => rfl
  | cons f fs ih => rw [fieldTexts, ih, List.map_cons, fieldText]

theorem toList_fieldText (l : Layout) (depth : Nat) (f : String × Json) :
    (fieldText l depth f).toList =
      (quote f.1).toList ++ (": ".toList ++ (textAt l depth f.2).toList) := by
  rw [fieldText, String.toList_append, String.toList_append, List.append_assoc]

/-- The character that the text of a value without numbers begins with. -/
def firstChar : Json → Char
  | .bool true => 't'
  | .bool false => 'f'
  | .str _ => '"'
  | .arr _ => '['
  | .obj _ => '\x7b'
  | _ => 'n'

theorem head?_enclose (l : Layout) (depth : Nat) {opening : String} {c : Char}
    (hc : opening.toList = [c]) (closing : String) (items : List String) :
    (l.enclose depth opening closing items).toList.head? = some c := by
  rw [Layout.enclose]
  split <;> simp [hc]

theorem head?_textAt (l : Layout) (depth : Nat) {v : Json} (hv : Numberless v) :
    (textAt l depth v).toList.head? = some (firstChar v) := by
  cases hv with
  | null => simp [textAt, firstChar]
  | bool b => cases b <;> simp [textAt, firstChar]
  | str s => rw [textAt, toList_quote]; rfl
  | arr h => rw [textAt]; exact head?_enclose l depth rfl _ _
  | obj h => rw [textAt]; exact head?_enclose l depth rfl _ _

theorem firstChar_ne_closing (v : Json) : firstChar v ≠ ']' := by
  unfold firstChar
  split <;> decide

theorem firstChar_inj (l : Layout) {v w : Json} (hv : Numberless v) (hw : Numberless w)
    {depth : Nat} {rest rest' : List Char}
    (h : (textAt l depth v).toList ++ rest = (textAt l depth w).toList ++ rest') :
    firstChar v = firstChar w := by
  have hhead := congrArg List.head? h
  rw [List.head?_append, List.head?_append, head?_textAt l depth hv,
    head?_textAt l depth hw] at hhead
  exact Option.some_inj.1 hhead

/-- **A value is told by its text, whatever stands behind it**, and so is where the text ends. -/
theorem textAt_append_inj (l : Layout) {v w : Json} (hv : Numberless v) (hw : Numberless w)
    {depth : Nat} {rest rest' : List Char}
    (h : (textAt l depth v).toList ++ rest = (textAt l depth w).toList ++ rest') :
    v = w ∧ rest = rest' := by
  induction hv generalizing w depth rest rest' with
  | null =>
    have hfirst := firstChar_inj l .null hw h
    cases hw with
    | null => exact ⟨rfl, List.append_cancel_left h⟩
    | bool b => cases b <;> cases hfirst
    | _ => cases hfirst
  | bool b =>
    have hfirst := firstChar_inj l (.bool b) hw h
    cases hw with
    | bool b' =>
      have hb : b = b' := by cases b <;> cases b' <;> first | rfl | cases hfirst
      subst hb
      exact ⟨rfl, List.append_cancel_left h⟩
    | _ => cases b <;> cases hfirst
  | str s =>
    have hfirst := firstChar_inj l (.str s) hw h
    cases hw with
    | str t =>
      rw [textAt, textAt] at h
      obtain ⟨rfl, hrest⟩ := quote_append_inj h
      exact ⟨rfl, hrest⟩
    | bool b => cases b <;> cases hfirst
    | _ => cases hfirst
  | @arr items hitems ih =>
    have hfirst := firstChar_inj l (.arr hitems) hw h
    cases hw with
    | @arr items' hitems' =>
      rw [textAt, textAt, itemTexts_eq, itemTexts_eq] at h
      obtain ⟨rfl, hrest⟩ := Layout.enclose_append_inj (k := ']') rfl (by decide) (by decide)
        (fun x hx => ⟨firstChar x, head?_textAt l (depth + 1) (hx.elim (hitems x) (hitems' x)),
          firstChar_ne_closing x⟩)
        (fun x hx y hy _ _ hxy => ih x hx (hitems' y hy) hxy) h
      exact ⟨rfl, hrest⟩
    | bool b => cases b <;> cases hfirst
    | _ => cases hfirst
  | @obj fields hfields ih =>
    have hfirst := firstChar_inj l (.obj hfields) hw h
    cases hw with
    | @obj fields' hfields' =>
      rw [textAt, textAt, fieldTexts_eq, fieldTexts_eq] at h
      obtain ⟨rfl, hrest⟩ := Layout.enclose_append_inj (k := '\x7d') rfl (by decide) (by decide)
        (fun f _ => ⟨'"', by rw [toList_fieldText, toList_quote]; rfl, by decide⟩)
        (fun f hf g hg rest rest' hfg => by
          rw [toList_fieldText, toList_fieldText] at hfg
          simp only [List.append_assoc] at hfg
          obtain ⟨hkey, hvalues⟩ := quote_append_inj hfg
          obtain ⟨hvalue, hrest⟩ := ih f hf (hfields' g hg) (List.append_cancel_left hvalues)
          exact ⟨Prod.ext hkey hvalue, hrest⟩) h
      exact ⟨rfl, hrest⟩
    | bool b => cases b <;> cases hfirst
    | _ => cases hfirst

/-- **The text of a value tells the value.** -/
theorem text_inj (l : Layout) {v w : Json} (hv : Numberless v) (hw : Numberless w)
    (h : v.text l = w.text l) : v = w :=
  (textAt_append_inj l hv hw (congrArg (fun s => s.toList ++ []) h)).1

end Json
end Entigram
