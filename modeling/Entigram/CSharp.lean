import Entigram.Plan.Mapping

/-!
# C# sources

Writes plans down as C#: one class for every entity plan, and a context class of the Entity
Framework for a mapping plan.  Both are built as lists of lines and only joined at the end, so the
layout of each construct stands in one function and a source is the concatenation of theirs.

A text property says `required` where it may not be missing, because a string has no default;
everything else takes a question mark where it may.
-/

set_option autoImplicit false

namespace Entigram
namespace CSharp

/-- The settings of a source. -/
structure Style where
  /-- The name of the context class. -/
  contextName : String := "AppDbContext"
  /-- The namespace that both sources declare, if any. -/
  declaredNamespace : Option String := none
deriving Repr, DecidableEq, Inhabited

/-- The C# type of a scalar property. -/
def typeName : ScalarType → String
  | .integer => "int"
  | .text => "string"
  | .dateTime => "DateTime"

/-- One level of indentation. -/
def indent : String := "    "

/-- A line at a depth. -/
def line (depth : Nat) (text : String) : String := String.join (List.replicate depth indent) ++ text

/-- Lines as a text, each ended by a line feed. -/
def join (lines : List String) : String := "\n".intercalate lines ++ "\n"

/-- The lines in front of a source.  An empty namespace is none. -/
def header (style : Style) : List String :=
  match style.declaredNamespace with
  | none => []
  | some n => if n = "" then [] else [s!"namespace {n};", ""]

/-! ## Classes -/

/-- How the type of a property is declared. -/
def declaredType (p : ScalarProperty) : String :=
  match p.type, p.nullable with
  | .text, true => "string?"
  | .text, false => "required string"
  | t, true => typeName t ++ "?"
  | t, false => typeName t

/-- The accessors of every property. -/
def accessors : String := "\x7b get; set; \x7d"

/-- The line of a scalar property. -/
def propertyLine (p : ScalarProperty) : String :=
  line 1 s!"public {declaredType p} {p.name} {accessors}"

/-- The line of a navigation. -/
def navigationLine (n : Navigation) : String :=
  if n.isCollection then
    line 1 s!"public ICollection<{n.target}> {n.name} {accessors} = new List<{n.target}>();"
  else line 1 s!"public {n.target}? {n.name} {accessors}"

/-- The lines of the navigations, with a heading if there are any. -/
def navigationLines (ns : List Navigation) : List String :=
  if ns.isEmpty then [] else "" :: line 1 "// Navigation properties" :: ns.map navigationLine

/-- The lines of a class. -/
def classLines (p : EntityPlan) : List String :=
  [s!"public class {p.className}", "\x7b"] ++ p.properties.map propertyLine
    ++ navigationLines p.navigations ++ ["\x7d"]

/-- The source of all classes.  Without a namespace and without classes it is empty. -/
def entities (style : Style) (plans : List EntityPlan) : String :=
  let lines := header style ++ plans.flatMap fun p => classLines p ++ [""]
  if lines.isEmpty then "" else join lines

/-! ## The context -/

/-- The line of a query surface. -/
def surfaceLine (q : QuerySurface) : String :=
  line 1 s!"public DbSet<{q.className}> {q.name} {accessors} = default!;"

/-- The line that begins the configuration of a class. -/
def entityLine (className : String) : String := line 2 s!"modelBuilder.Entity<{className}>()"

/-- The lines of an ownership. -/
def ownershipLines (o : Ownership) : List String :=
  [entityLine o.owner, line 3 s!".OwnsOne(e => e.{o.navigation});"]

/-- The lines of a key. -/
def keyLines (k : KeyPlan) : List String :=
  let keys := ", ".intercalate (k.properties.map fun name => s!"e.{name}")
  [entityLine k.className, line 3 s!".HasKey(e => new \x7b {keys} \x7d);"]

/-- The lines of a class without a key. -/
def keylessLines (className : String) : List String :=
  [entityLine className, line 3 ".HasNoKey();"]

/-- A section of the configuration: its heading, the lines of its entries and its end, or nothing
if it has no entries. -/
def sectionLines {α : Type} (heading : String) (entry : α → List String) (ending : List String)
    (entries : List α) : List String :=
  if entries.isEmpty then [] else line 2 heading :: entries.flatMap entry ++ ending

/-- The lines of the configuration. -/
def configurationLines (m : MappingPlan) : List String :=
  sectionLines "// Configure owned entities" ownershipLines [""] m.ownerships
    ++ sectionLines "// Configure composite keys" keyLines [""] m.compositeKeys
    ++ sectionLines "// Configure keyless entities" keylessLines [""] m.keyless
    ++ sectionLines "// Configure many-to-many join tables" keyLines [] m.joinTableKeys

/-- The source of the context class. -/
def mapping (style : Style) (m : MappingPlan) : String :=
  let name := style.contextName
  join <|
    header style
      ++ ["using Microsoft.EntityFrameworkCore;",
        "",
        s!"public class {name} : DbContext",
        "\x7b",
        line 1 s!"public {name}(DbContextOptions<{name}> options) : base(options)",
        line 1 "\x7b",
        line 1 "\x7d",
        ""]
      ++ m.querySurfaces.map surfaceLine
      ++ ["",
        line 1 "protected override void OnModelCreating(ModelBuilder modelBuilder)",
        line 1 "\x7b"]
      ++ configurationLines m
      ++ [line 1 "\x7d", "\x7d"]

end CSharp
end Entigram
