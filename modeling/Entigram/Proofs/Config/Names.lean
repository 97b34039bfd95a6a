import Entigram.Proofs.Config.Checked
import Entigram.Proofs.Text.Pieces

/-!
# Accepted names

Settings bring two names into sources, that of the context class and that of the namespace.  What is
accepted as a name is an identifier, but a line feed at its end does not count
(`eq_withoutFinalBreak`), so even accepted names can break a line, the namespace in several places.
Besides this they have letters, digits and low lines only, and points in a namespace
(`continuesIdentifier_of_accepts`, `mem_namespace`).

The names of accepted settings are defaults or accepted values, so they are accepted names
(`accepted_of_codegen`).
-/

set_option autoImplicit false

namespace Entigram
namespace Config

open Text

/-! ## Accepted names -/

/-- At most a line feed is left out. -/
theorem eq_withoutFinalBreak (cs : List Char) :
    cs = withoutFinalBreak cs ∨ cs = withoutFinalBreak cs ++ ['\n'] := by
  rw [withoutFinalBreak]
  split
  · next h => exact .inr (List.dropLast_append_getLast? _ h).symm
  · exact .inl rfl

/-- What begins an identifier can also stand later in it. -/
theorem continuesIdentifier_of_startsIdentifier {c : Char} (h : startsIdentifier c = true) :
    continuesIdentifier c = true := by
  rw [startsIdentifier, Bool.or_eq_true] at h
  rw [continuesIdentifier, Bool.or_eq_true]
  exact h.imp_left fun halpha => by rw [Char.isAlphanum, halpha, Bool.true_or]

/-- An accepted name is an identifier, up to its end. -/
theorem continuesIdentifier_of_accepts {cs : List Char} (h : acceptsIdentifier cs = true) :
    ∀ c ∈ withoutFinalBreak cs, continuesIdentifier c = true := by
  rw [acceptsIdentifier] at h
  cases hname : withoutFinalBreak cs with
  | nil => exact fun c hc => absurd hc List.not_mem_nil
  | cons d ds =>
    rw [hname, isIdentifier, Bool.and_eq_true, List.all_eq_true] at h
    exact List.forall_mem_cons.2 ⟨continuesIdentifier_of_startsIdentifier h.1, h.2⟩

/-- What is in a namespace. -/
theorem mem_namespace {cs : List Char}
    (h : (splitWhere (· = '.') cs).all acceptsIdentifier = true) {c : Char} (hc : c ∈ cs) :
    c = '.' ∨ c = '\n' ∨ continuesIdentifier c = true := by
  rcases exists_mem_splitWhere (p := (· = '.')) hc with hpoint | ⟨part, hpart, hc⟩
  · exact .inl (of_decide_eq_true hpoint)
  · have haccepts := List.all_eq_true.1 h part hpart
    refine .inr ?_
    rcases eq_withoutFinalBreak part with hname | hname
    · rw [hname] at hc
      exact .inr (continuesIdentifier_of_accepts haccepts c hc)
    · rw [hname, List.mem_append, List.mem_singleton] at hc
      exact hc.symm.imp_right (continuesIdentifier_of_accepts haccepts c)

/-- Names that can stand in a source. -/
structure AcceptedStyle (style : CSharp.Style) : Prop where
  contextName : acceptsIdentifier style.contextName.toList = true
  declaredNamespace : ∀ n, style.declaredNamespace = some n →
    (splitWhere (· = '.') n.toList).all acceptsIdentifier = true

theorem declaredNamespace_str (s : String) : declaredNamespace (.str s) =
    if s = "" then .ok none
    else if (splitWhere (· = '.') s.toList).all acceptsIdentifier then .ok (some s)
    else Checked.reject (.declaredNamespace s) := rfl

theorem accepts_of_contextName {v : Json} {s : String} (h : contextName v = .ok s) :
    acceptsIdentifier s.toList = true := by
  obtain ⟨t, -, ht⟩ := Checked.andThen_eq_ok_iff.1 h
  split at ht
  · next haccepts => exact Checked.ok.inj ht ▸ haccepts
  · cases ht

theorem accepts_of_declaredNamespace {v : Json} {n : String}
    (h : declaredNamespace v = .ok (some n)) :
    (splitWhere (· = '.') n.toList).all acceptsIdentifier = true := by
  rw [declaredNamespace.eq_def] at h
  split at h
  · cases h
  · obtain ⟨t, -, ht⟩ := Checked.andThen_eq_ok_iff.1 h
    split at ht
    · cases ht
    · split at ht
      · next haccepts =>
        obtain rfl := Option.some_inj.1 (Checked.ok.inj ht)
        exact haccepts
      · cases ht

/-- **Accepted settings have accepted names.** -/
theorem accepted_of_codegen {fs : Json.Fields} {settings : Codegen}
    (h : codegen fs = .ok settings) : AcceptedStyle settings.style := by
  obtain ⟨-, hs, hn, -⟩ := codegen_eq_ok_iff.1 h
  constructor
  · rw [Codegen.style]
    rcases eq_default_or_of_field hs with hdefault | ⟨v, hv⟩
    · rw [hdefault]
      exact (by decide : acceptsIdentifier (Codegen.contextName {}).toList = true)
    · exact accepts_of_contextName hv
  · intro name hname
    rw [show settings.declaredNamespace = some name from hname] at hn
    rcases eq_default_or_of_field hn with hnone | ⟨v, hv⟩
    · cases hnone
    · exact accepts_of_declaredNamespace hv

end Config
end Entigram
