import Entigram.Generation
import Entigram.Config.Settings
import Entigram.Proofs.CSharp.Mapping

/-!
# The lines of generated sources

A name that had a line break inside would bring lines of its own into a source, and these could say
anything.  None has: a diagram is cut at line breaks before names are read off it, and neither
Pascal case nor plurals nor numbers add any.  So sources have just the lines that they were put
together from (`convert_lines`), and how many these are can be counted off the plans.

A conversion comes to sources if both plans can be made, and then these are the sources of the plans
(`convert_eq_ok_iff`).
-/

set_option autoImplicit false

namespace Entigram

open Text Naming Attempt CSharp

namespace Generation

/-! ## Conversions -/

variable {style : Style} {elapsed text : String} {c : Conversion}

theorem result_source (operation name elapsed : String) (s : Schema) (reports : List Plan.Report)
    (outcome : Except Plan.Failure String) :
    (source operation name elapsed s reports outcome).result = outcome := by
  cases outcome <;> rfl

/-- A conversion comes to what its two steps come to. -/
theorem result_convert : (convert style elapsed text).result =
    (entities style elapsed (Diagram.parse text)).result >>= fun entities =>
      (mapping style elapsed (Diagram.parse text)).result.map fun mapping =>
        { schema := Diagram.parse text, entities, mapping,
          warnings := warnings (Diagram.parse text) } := by
  rw [convert, Diagram.parse]
  cases (entities style elapsed (Diagram.read text).schema).result <;> rfl

/-- **What a conversion comes to** are the sources of the plans. -/
theorem convert_eq_ok_iff : (convert style elapsed text).result = .ok c ↔ ∃ plans m,
    Plan.entities (Diagram.parse text) = .ok plans ∧
    (Plan.mapping (Diagram.parse text)).result = .ok m ∧
    c = { schema := Diagram.parse text
          entities := CSharp.entities style plans
          mapping := CSharp.mapping style m
          warnings := warnings (Diagram.parse text) } := by
  rw [result_convert, entities, mapping]
  simp only [result_source, bind_eq_ok_iff, map_eq_ok_iff, mapError_eq_ok_iff]
  constructor
  · rintro ⟨_, ⟨plans, hplans, rfl⟩, _, ⟨m, hm, rfl⟩, rfl⟩
    exact ⟨plans, m, hplans, hm, rfl⟩
  · rintro ⟨plans, m, hplans, hm, rfl⟩
    exact ⟨_, ⟨plans, hplans, rfl⟩, _, ⟨m, hm, rfl⟩, rfl⟩

/-- A diagram whose classes can be planned is converted. -/
theorem exists_convert (h : fault? (Plan.entities (Diagram.parse text)) = none) :
    ∃ c, (convert style elapsed text).result = .ok c := by
  obtain ⟨plans, m, hplans, hm⟩ := Plan.exists_plans h
  exact ⟨_, convert_eq_ok_iff.2 ⟨plans, m, hplans, hm, rfl⟩⟩

theorem schema_of_convert (h : (convert style elapsed text).result = .ok c) :
    c.schema = Diagram.parse text := by
  obtain ⟨plans, m, -, -, rfl⟩ := convert_eq_ok_iff.1 h
  rfl

/-! ## Lines -/

/-- A space or line break is not a line break either way. -/
theorem isLineBreak_eq_false {c : Char} (h : isSpaceOrLineBreak c = false) :
    isLineBreak c = false :=
  (Bool.or_eq_false_iff.1 h).2

/-- Every attribute of an entity has a property. -/
theorem map_column_of_mem {s : Schema} {plans : List EntityPlan}
    (h : Plan.entities s = .ok plans) {p : EntityPlan} (hp : p ∈ plans) :
    p.properties.map (·.column) = p.entity.attributes := by
  obtain ⟨e, -, c, -, hep⟩ := Plan.exists_entity_of_mem h hp
  rw [Plan.map_column_of_eq_ok hep, Plan.entity_of_eq_ok hep]

/-- A section has two lines for every entry, besides its heading and its end. -/
theorem length_sectionLines {α : Type} {heading : String} {entry : α → List String}
    {ending : List String} (hentry : IsEntry entry) (xs : List α) :
    (sectionLines heading entry ending xs).length =
      2 * xs.length + if xs.isEmpty then 0 else 1 + ending.length := by
  have hlines : (xs.flatMap entry).length = 2 * xs.length := by
    simp [List.length_flatMap, hentry.length, Nat.mul_comm]
  rw [sectionLines]
  split
  · next hempty => simp [List.isEmpty_iff.1 hempty]
  · rw [List.cons_append, List.length_cons, List.length_append, hlines]
    omega

theorem length_bodyLines (m : MappingPlan) : (bodyLines m).length =
    5 + m.querySurfaces.length +
      2 * (m.ownerships.length + m.compositeKeys.length + m.keyless.length +
        m.joinTableKeys.length) +
      ((if m.ownerships.isEmpty then 0 else 2) + (if m.compositeKeys.isEmpty then 0 else 2) +
        (if m.keyless.isEmpty then 0 else 2) + if m.joinTableKeys.isEmpty then 0 else 1) := by
  simp only [bodyLines, configurationLines, List.length_append, List.length_map, List.length_cons,
    List.length_nil, length_sectionLines isEntry_ownershipLines,
    length_sectionLines isEntry_keyLines, length_sectionLines isEntry_keylessLines,
    Nat.reduceAdd, Nat.add_zero, Nat.zero_add]
  omega

/-- The lines in front of the query surfaces under default settings. -/
theorem openingLines_default : openingLines {} = ["using Microsoft.EntityFrameworkCore;", "",
    "public class AppDbContext : DbContext", "\x7b",
    "    public AppDbContext(DbContextOptions<AppDbContext> options) : base(options)", "    \x7b",
    "    \x7d", ""] := by
  rfl

/-- The lines behind the opening of a context, letter by letter where they are fixed. -/
theorem bodyLines_eq (m : MappingPlan) : bodyLines m = m.querySurfaces.map surfaceLine ++
    (["", "    protected override void OnModelCreating(ModelBuilder modelBuilder)", "    \x7b"] ++
      (configurationLines m ++ ["    \x7d", "\x7d"])) := by
  have hmethod : ["", line 1 "protected override void OnModelCreating(ModelBuilder modelBuilder)",
        line 1 "\x7b"] =
      ["", "    protected override void OnModelCreating(ModelBuilder modelBuilder)",
        "    \x7b"] := by
    rfl
  have hend : [line 1 "\x7d", "\x7d"] = ["    \x7d", "\x7d"] := by rfl
  rw [bodyLines, hmethod, hend]

/-- The lines of classes, letter by letter where they are fixed. -/
theorem allLines_eq (plans : List EntityPlan) : allLines plans = plans.flatMap fun p =>
    ["public class " ++ p.className, "\x7b"] ++ p.properties.map propertyLine ++
      (if p.navigations.isEmpty then []
        else ["", "    // Navigation properties"] ++ p.navigations.map navigationLine) ++
      ["\x7d", ""] := by
  have hcomment : line 1 "// Navigation properties" = "    // Navigation properties" := by rfl
  simp only [allLines, classLines, navigationLines, hcomment, toString, List.append_assoc,
    List.cons_append, List.nil_append]

/-- **No diagram brings lines of its own into a source.**  If a text is converted under default
settings, then there are plans of its diagram's classes and of their mapping, and the sources are
cut, at line breaks of any kind, into the lines of these plans and no others: for every entity, in
order, the head of its class, a brace, a line for every attribute, an empty line, a comment and a
line for every navigation if it has any, a brace and an empty line; and for the mapping one line for
every query surface and two for every ownership, key and class without a key, within fixed ones. -/
theorem convert_lines {elapsed text : String} {c : Conversion}
    (h : (convert ({} : Config.Codegen).style elapsed text).result = .ok c) :
    ∃ plans m, c.schema = Diagram.parse text ∧ Plan.entities c.schema = .ok plans ∧
      (Plan.mapping c.schema).result = .ok m ∧
      plans.map (·.entity) = c.schema.entities ∧
      (∀ p ∈ plans, p.properties.map (·.column) = p.entity.attributes) ∧
      lines c.entities.toList = (plans.flatMap fun p =>
        ["public class " ++ p.className, "\x7b"] ++ p.properties.map propertyLine ++
          (if p.navigations.isEmpty then []
            else ["", "    // Navigation properties"] ++ p.navigations.map navigationLine) ++
          ["\x7d", ""]).map String.toList ∧
      lines c.mapping.toList = (["using Microsoft.EntityFrameworkCore;", "",
          "public class AppDbContext : DbContext", "\x7b",
          "    public AppDbContext(DbContextOptions<AppDbContext> options) : base(options)",
          "    \x7b", "    \x7d", ""] ++
        m.querySurfaces.map surfaceLine ++
        ["", "    protected override void OnModelCreating(ModelBuilder modelBuilder)",
          "    \x7b"] ++
        configurationLines m ++ ["    \x7d", "\x7d"]).map String.toList ∧
      (lines c.mapping.toList).length = 13 + m.querySurfaces.length +
        2 * (m.ownerships.length + m.compositeKeys.length + m.keyless.length +
          m.joinTableKeys.length) +
        ((if m.ownerships.isEmpty then 0 else 2) + (if m.compositeKeys.isEmpty then 0 else 2) +
          (if m.keyless.isEmpty then 0 else 2) + if m.joinTableKeys.isEmpty then 0 else 1) := by
  obtain ⟨plans, m, hplans, hm, rfl⟩ := convert_eq_ok_iff.1 h
  have hclasses : ∀ p ∈ plans, p.Avoids isLineBreak := fun p hp =>
    (Plan.avoids_of_parse hplans p hp).mono fun _ => isLineBreak_eq_false
  have hmapping : m.Avoids isLineBreak :=
    (Plan.avoids_mapping_of_parse hm).mono fun _ => isLineBreak_eq_false
  have hplain : ∀ l ∈ openingLines {}, l.toList.all isPlain = true := by
    rw [openingLines_default]
    decide
  have hopening : ∀ l ∈ openingLines {}, Avoids isLineBreak l := fun l hl =>
    sparesPlain_isLineBreak.avoids (hplain l hl)
  have hlines : lines (CSharp.mapping {} m).toList = _ := lines_mapping hopening hmapping
  refine ⟨plans, m, rfl, hplans, hm, Plan.map_entity hplans,
    fun p hp => map_column_of_mem hplans hp, ?_, ?_, ?_⟩
  · have hentities : lines (CSharp.entities {} plans).toList = _ :=
      lines_entities (List.forall_mem_nil _) hclasses
    rw [allLines_eq] at hentities
    exact hentities
  · rw [openingLines_default, bodyLines_eq] at hlines
    simp only [List.append_assoc]
    exact hlines
  · refine (congrArg List.length hlines).trans ?_
    rw [List.length_map, List.length_append, openingLines_default, length_bodyLines]
    simp only [List.length_cons, List.length_nil]
    omega

/-- A diagram with line separators in odd places, and with what looks like C#. -/
def oddLines : String :=
  "USER \x7b\rstring name\u2028public class\n\x7d\u0085USER ||--o\x7b USER : \x7d public class"

/-- The plan of its one class. -/
def oddPlan : EntityPlan where
  entity := ⟨"USER", [⟨"name", "string", false, false⟩, ⟨"class", "public", false, false⟩]⟩
  className := "User"
  kind := .keyless
  properties := [⟨"Name", .text, false, ⟨"name", "string", false, false⟩⟩,
    ⟨"Class", .text, false, ⟨"class", "public", false, false⟩⟩]
  navigations := [⟨"Users", "User", true⟩]

theorem convert_lines_oddLines : ∃ c,
    (convert ({} : Config.Codegen).style "0" oddLines).result = .ok c ∧
    lines c.entities.toList = ["public class User", "\x7b",
      "    public required string Name \x7b get; set; \x7d",
      "    public required string Class \x7b get; set; \x7d", "",
      "    // Navigation properties",
      "    public ICollection<User> Users \x7b get; set; \x7d = new List<User>();",
      "\x7d", ""].map String.toList ∧
    (lines c.mapping.toList).length = 18 := by
  have hok : fault? (Plan.entities (Diagram.parse oddLines)) = none := by decide +kernel
  obtain ⟨c, hc⟩ := exists_convert hok
  obtain ⟨plans, m, hschema, hplans, hm, -, -, hentities, -, hcount⟩ := convert_lines hc
  rw [hschema] at hplans hm
  have hplan : plans = [oddPlan] := by
    refine eq_of_map_toOption id hplans ?_
    decide +kernel
  have hmapping : m = { querySurfaces := [⟨"User", "Users"⟩], keyless := ["User"] } := by
    refine eq_of_map_toOption id hm ?_
    decide +kernel
  rw [hplan] at hentities
  rw [hmapping] at hcount
  exact ⟨c, hc, hentities.trans (by decide +kernel), hcount⟩

end Generation
end Entigram
