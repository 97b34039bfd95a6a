import Mathlib.Logic.Function.Basic
import Entigram.Listing
import Entigram.Proofs.Json.Text

/-!
# A schema is read off its listing

No two schemas have the same listing, whatever characters there are in their names, types and
labels, however the listing is laid out, and with the kinds of entities or without them
(`listing_injective`).  The text tells the value that it is written for, as there are no numbers in
it.  In the value every part of the schema stands under a key of its own, and what is shown beside
the parts, the kinds, comes after them.
-/

set_option autoImplicit false

namespace Entigram

open Json

/-! ## Parts -/

theorem Attribute.toJson_inj {a b : Attribute} (h : a.toJson = b.toJson) : a = b := by
  cases a
  cases b
  simpa [Attribute.toJson] using h

/-- An entity is told by its listing; the kinds that are shown do not matter. -/
theorem Entity.toJson_inj {e e' : Entity} {kind kind' : Option Kind}
    (h : e.toJson kind = e'.toJson kind') : e = e' := by
  obtain ⟨name, attributes⟩ := e
  obtain ⟨name', attributes'⟩ := e'
  simp only [Entity.toJson, Json.obj.injEq, List.cons_append, List.nil_append, List.cons.injEq,
    Prod.mk.injEq, Json.str.injEq, Json.arr.injEq, true_and] at h
  obtain ⟨rfl, hattributes, -⟩ := h
  rw [List.map_injective_iff.2 (fun _ _ => Attribute.toJson_inj) hattributes]

theorem Relationship.toJson_inj {r r' : Relationship} (h : r.toJson = r'.toJson) : r = r' := by
  cases r
  cases r'
  simpa [Relationship.toJson] using h

/-! ## No numbers -/

theorem Attribute.numberless_toJson (a : Attribute) : Numberless a.toJson := by
  refine .obj fun f hf => ?_
  simp only [List.mem_cons, List.not_mem_nil, or_false] at hf
  obtain rfl | rfl | rfl | rfl := hf
  · exact .str _
  · exact .str _
  · exact .bool _
  · exact .bool _

theorem Entity.numberless_toJson (e : Entity) (kind : Option Kind) :
    Numberless (e.toJson kind) := by
  have hattributes : Numberless (.arr (e.attributes.map Attribute.toJson)) := by
    refine .arr fun v hv => ?_
    obtain ⟨a, -, rfl⟩ := List.mem_map.1 hv
    exact a.numberless_toJson
  refine .obj fun f hf => ?_
  rcases List.mem_append.1 hf with hf | hf
  · simp only [List.mem_cons, List.not_mem_nil, or_false] at hf
    obtain rfl | rfl := hf
    · exact .str _
    · exact hattributes
  · cases kind with
    | none => cases hf
    | some k =>
      obtain rfl := List.mem_singleton.1 hf
      exact .str _

theorem Relationship.numberless_toJson (r : Relationship) : Numberless r.toJson := by
  refine .obj fun f hf => ?_
  simp only [List.mem_cons, List.not_mem_nil, or_false] at hf
  obtain rfl | rfl | rfl | rfl | rfl := hf <;> exact .str _

namespace Schema

theorem numberless_toJson (s : Schema) (withKinds : Bool) : Numberless (s.toJson withKinds) := by
  refine .obj fun f hf => ?_
  simp only [List.mem_cons, List.not_mem_nil, or_false] at hf
  obtain rfl | rfl := hf
  · refine .arr fun v hv => ?_
    obtain ⟨e, -, rfl⟩ := List.mem_map.1 hv
    exact e.numberless_toJson _
  · refine .arr fun v hv => ?_
    obtain ⟨r, -, rfl⟩ := List.mem_map.1 hv
    exact r.numberless_toJson

/-! ## Schemas -/

/-- Entities are told by what is listed, although the kinds are those of two schemas. -/
theorem entities_inj {es es' : List Entity} (kind kind' : Entity → Option Kind)
    (h : es.map (fun e => e.toJson (kind e)) = es'.map fun e => e.toJson (kind' e)) : es = es' := by
  induction es generalizing es' with
  | nil => exact (List.map_eq_nil_iff.1 h.symm).symm
  | cons e es ih =>
    obtain ⟨e', rest, rfl, he, hrest⟩ := List.map_eq_cons_iff.1 h.symm
    rw [Entity.toJson_inj he.symm, ih hrest.symm]

/-- A schema is told by the value that is listed for it. -/
theorem toJson_inj {s t : Schema} {withKinds : Bool} (h : s.toJson withKinds = t.toJson withKinds) :
    s = t := by
  obtain ⟨entities, relationships⟩ := s
  obtain ⟨entities', relationships'⟩ := t
  simp only [Schema.toJson, Json.obj.injEq, List.cons.injEq, Prod.mk.injEq, Json.arr.injEq,
    true_and, and_true] at h
  obtain ⟨hentities, hrelationships⟩ := h
  rw [entities_inj (fun e => if withKinds then some (kind _ e) else none)
      (fun e => if withKinds then some (kind _ e) else none) hentities,
    List.map_injective_iff.2 (fun _ _ => Relationship.toJson_inj) hrelationships]

/-- **A schema is told by its listing**, for every layout, with kinds and without them. -/
theorem listing_injective (layout : Layout) (withKinds : Bool) :
    Function.Injective fun s : Schema => s.listing layout withKinds := by
  intro s t h
  exact toJson_inj (text_inj layout (s.numberless_toJson withKinds)
    (t.numberless_toJson withKinds) h)

end Schema
end Entigram
