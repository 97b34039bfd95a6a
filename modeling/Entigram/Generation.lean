import Entigram.Diagram.Reading
import Entigram.Target

/-!
# From a diagram to sources

The whole way: a text is read, planned and written down.  Everything that is reported on the way is
part of the result, whether the way ends in sources or in a failure, because a failure does not
take back what was reported before it.
-/

set_option autoImplicit false

namespace Entigram

/-- A result and the records on the way to it. -/
structure Logged (α : Type) where
  log : List Log.Record
  result : Except Plan.Failure α
deriving Repr

namespace Generation

/-- The source of one kind for a schema, with the records around it.  `elapsed` is the text for the
time it took. -/
def source (operation name : String) (elapsed : String) (s : Schema)
    (reports : List Plan.Report) (text : Except Plan.Failure String) : Logged String :=
  let origin : Log.Origin := { component := "er2code.schema.generator", operation }
  let started := ⟨.info, origin, s!"{name} started with {s.entities.length} entities"⟩
    :: reports.map Plan.Report.record
  match text with
  | .error f => ⟨started, .error f⟩
  | .ok t =>
    ⟨started ++ [⟨.info, origin,
      s!"{name} completed in {elapsed}ms. Generated {t.length} characters"⟩], .ok t⟩

/-- The source of a schema's classes. -/
def entities (style : CSharp.Style) (elapsed : String) (s : Schema) : Logged String :=
  source "generate_entities" "GenerateEntities" elapsed s []
    (((Plan.entities s).map (CSharp.entities style)).mapError .unresolved)

/-- The source of a schema's mapping configuration. -/
def mapping (style : CSharp.Style) (elapsed : String) (s : Schema) : Logged String :=
  let plan := Plan.mapping s
  source "generate_mapping_configuration" "GenerateMappingConfiguration" elapsed s plan.reports
    (plan.result.map (CSharp.mapping style))

/-! ## Conversion -/

/-- What is worth saying about a schema that was read. -/
def warnings (s : Schema) : List String :=
  (if s.entities.isEmpty then ["No entities found in diagram"] else [])
    ++ (if s.relationships.isEmpty then ["No relationships found in diagram"] else [])

/-- A converted diagram: its schema, the two sources and the warnings. -/
structure Conversion where
  schema : Schema
  entities : String
  mapping : String
  warnings : List String
deriving Repr, DecidableEq

/-- Converts a diagram. -/
def convert (style : CSharp.Style) (elapsed : String) (text : String) : Logged Conversion :=
  let reading := Diagram.read text
  let said := warnings reading.schema
  let before := reading.log elapsed
    ++ said.map fun w => ⟨.warning, { component := "er2code.pipeline", operation := "convert" }, w⟩
  let classes := entities style elapsed reading.schema
  let timing : Log.Record :=
    ⟨.debug, { component := "er2code.utils.decorators", operation := "wrapper" },
      s!"convert took {elapsed}ms"⟩
  match classes.result with
  | .error f => ⟨before ++ classes.log ++ [timing], .error f⟩
  | .ok entities =>
    let context := mapping style elapsed reading.schema
    ⟨before ++ classes.log ++ context.log ++ [timing],
      context.result.map fun mapping =>
        { schema := reading.schema, entities, mapping, warnings := said }⟩

end Generation

end Entigram
