import PhysicsLab.Json.Printer
import PhysicsLab.Json.Reader
import PhysicsLab.Model
import PhysicsLab.Problem.Document
import PhysicsLab.Settings.Document

/-!
# Models in documents

Models are read from JSON documents and written to them, as are their parts.  Writing and reading
are inverse to each other for models whose numbers are finite.
-/

namespace PhysicsLab

open Fields Scalars

/-! ## §1 Quantities and parameters -/

/-- A vector from a JSON value. -/
def Vec3.ofJson? (v : Json) : Option Vec3 := do
  let fs ← Json.fields? (plainNames ["x", "y", "z"]) v
  return ⟨← required? fs "x" number?, ← required? fs "y" number?, ← required? fs "z" number?⟩

/-- The JSON value of a vector. -/
def Vec3.toJson (a : Vec3) : Json :=
  .object [("x", .float a.x), ("y", .float a.y), ("z", .float a.z)]

/-- Exponents from a JSON value. -/
def Exponents.ofJson? (v : Json) : Option Exponents :=
  match v with
  | .array items =>
    (items.mapM fun item => match item with
      | Json.int n => some n
      | _ => none).bind Exponents.ofList?
  | _ => none

/-- The JSON value of exponents. -/
def Exponents.toJson (d : Exponents) : Json := .ofList .int d.toList

/-- A dimension from a JSON value. -/
def Dimension.ofJson? (v : Json) : Option Dimension :=
  match v with
  | .text "unknown" => some .unknown
  | .object [("unknown", .null)] => some .unknown
  | .object [("known", powers)] => (Exponents.ofJson? powers).map .known
  | _ => none

/-- The JSON value of a dimension. -/
def Dimension.toJson : Dimension → Json
  | known d => .object [("known", d.toJson)]
  | unknown => .text "unknown"

/-- A pair of numbers from a JSON value. -/
def pairOfJson? (v : Json) : Option (Float × Float) :=
  match v with
  | .array [a, b] => do return (← number? a, ← number? b)
  | _ => none

namespace Quantity

/-- The fields of a quantity. -/
def names : Fields.Names :=
  plainNames ["value", "unit", "dimension", "uncertainty", "precision", "range"]

/-- A quantity from a JSON value. -/
def ofJson? (v : Json) : Option Quantity := do
  let fs ← Json.fields? names v
  return {
    value := ← required? fs "value" number?
    unit := ← required? fs "unit" text?
    dimension := ← required? fs "dimension" Dimension.ofJson?
    uncertainty := ← optional? fs "uncertainty" number?
    precision := ← optional? fs "precision" (count? (UInt32.size - 1))
    range := ← optional? fs "range" pairOfJson? }

/-- The JSON value of a quantity. -/
def toJson (q : Quantity) : Json := .object ([
  ("value", .float q.value),
  ("unit", .text q.unit),
  ("dimension", q.dimension.toJson)] ++
  Json.optionalMember "uncertainty" .float q.uncertainty ++
  Json.optionalMember "precision" .ofNat q.precision ++
  Json.optionalMember "range" (fun r : Float × Float => .array [.float r.1, .float r.2]) q.range)

end Quantity

namespace Parameter

/-- The fields of a parameter. -/
def names : Fields.Names := plainNames [
  "symbol", "quantity", "role", "description", "dependencies", "constraints", "formula"]

/-- A parameter from a JSON value. -/
def ofJson? (v : Json) : Option Parameter := do
  let fs ← Json.fields? names v
  return {
    symbol := ← required? fs "symbol" text?
    quantity := ← required? fs "quantity" Quantity.ofJson?
    role := ← required? fs "role" (readKind? ParameterRole)
    description := ← orElse? fs "description" text? ""
    dependencies := ← orElse? fs "dependencies" Json.texts? []
    constraints := ← orElse? fs "constraints" Json.texts? []
    formula := ← optional? fs "formula" text? }

/-- The JSON value of a parameter. -/
def toJson (p : Parameter) : Json := .object ([
  ("symbol", .text p.symbol),
  ("quantity", p.quantity.toJson),
  ("role", .ofKind p.role),
  ("description", .text p.description),
  ("dependencies", .ofTexts p.dependencies),
  ("constraints", .ofTexts p.constraints)] ++
  Json.optionalMember "formula" .text p.formula)

end Parameter

/-! ## §2 Modules -/

namespace Equation

/-- The fields of an equation. -/
def names : Fields.Names := plainNames [
  "id", "kind", "expression", "variables", "parameters", "order", "linear", "physical_meaning"]

/-- An equation from a JSON value. -/
def ofJson? (v : Json) : Option Equation := do
  let fs ← Json.fields? names v
  return {
    id := ← required? fs "id" text?
    kind := ← required? fs "kind" (readKind? EquationKind)
    expression := ← required? fs "expression" text?
    symbols := ← orElse? fs "variables" Json.texts? []
    parameters := ← orElse? fs "parameters" Json.texts? []
    order := ← optional? fs "order" (count? 255)
    linear := ← orElse? fs "linear" bool? false
    meaning := ← orElse? fs "physical_meaning" text? "" }

/-- The JSON value of an equation. -/
def toJson (e : Equation) : Json := .object ([
  ("id", .text e.id),
  ("kind", .ofKind e.kind),
  ("expression", .text e.expression),
  ("variables", .ofTexts e.symbols),
  ("parameters", .ofTexts e.parameters)] ++
  Json.optionalMember "order" .ofNat e.order ++ [
  ("linear", .bool e.linear),
  ("physical_meaning", .text e.meaning)])

end Equation

namespace ConservationLaw

/-- The fields of a conservation law. -/
def names : Fields.Names := plainNames ["kind", "expression", "variables", "tolerance"]

/-- A conservation law from a JSON value. -/
def ofJson? (v : Json) : Option ConservationLaw := do
  let fs ← Json.fields? names v
  return {
    kind := ← required? fs "kind" (readKind? Conserved)
    expression := ← required? fs "expression" text?
    symbols := ← orElse? fs "variables" Json.texts? []
    tolerance := ← required? fs "tolerance" number? }

/-- The JSON value of a conservation law. -/
def toJson (l : ConservationLaw) : Json := .object [
  ("kind", .ofKind l.kind),
  ("expression", .text l.expression),
  ("variables", .ofTexts l.symbols),
  ("tolerance", .float l.tolerance)]

end ConservationLaw

namespace PhysicsModule

/-- The fields of a module. -/
def names : Fields.Names := plainNames [
  "id", "name", "description", "domain", "parameters", "equations", "dependencies",
  "conservation_laws", "assumptions", "limitations", "complexity", "outputs"]

/-- A module from a JSON value. -/
def ofJson? (v : Json) : Option PhysicsModule := do
  let fs ← Json.fields? names v
  return {
    id := ← required? fs "id" text?
    name := ← required? fs "name" text?
    description := ← orElse? fs "description" text? ""
    domain := ← required? fs "domain" (readKind? Domain)
    parameters := ← orElse? fs "parameters" (Json.table? Parameter.ofJson?) .empty
    equations := ← orElse? fs "equations" (Json.list? Equation.ofJson?) []
    dependencies := ← orElse? fs "dependencies" Json.texts? []
    conservationLaws := ← orElse? fs "conservation_laws" (Json.list? ConservationLaw.ofJson?) []
    assumptions := ← orElse? fs "assumptions" Json.texts? []
    limitations := ← orElse? fs "limitations" Json.texts? []
    complexity := ← orElse? fs "complexity" (readKind? ComplexityTier) .basic
    outputs := ← orElse? fs "outputs" Json.texts? [] }

/-- The JSON value of a module. -/
def toJson (b : PhysicsModule) : Json := .object [
  ("id", .text b.id),
  ("name", .text b.name),
  ("description", .text b.description),
  ("domain", .ofKind b.domain),
  ("parameters", .ofTable Parameter.toJson b.parameters),
  ("equations", .ofList Equation.toJson b.equations),
  ("dependencies", .ofTexts b.dependencies),
  ("conservation_laws", .ofList ConservationLaw.toJson b.conservationLaws),
  ("assumptions", .ofTexts b.assumptions),
  ("limitations", .ofTexts b.limitations),
  ("complexity", .ofKind b.complexity),
  ("outputs", .ofTexts b.outputs)]

end PhysicsModule

/-! ## §3 Bodies and constraints -/

namespace Entity

/-- The fields of a body. -/
def names : Fields.Names := plainNames [
  "id", "kind", "position", "velocity", "acceleration", "mass", "properties", "constraints"]

/-- A body from a JSON value. -/
def ofJson? (v : Json) : Option Entity := do
  let fs ← Json.fields? names v
  return {
    id := ← required? fs "id" text?
    kind := ← required? fs "kind" (readKind? EntityKind)
    position := ← required? fs "position" Vec3.ofJson?
    velocity := ← required? fs "velocity" Vec3.ofJson?
    acceleration := ← required? fs "acceleration" Vec3.ofJson?
    mass := ← required? fs "mass" number?
    properties := ← orElse? fs "properties" (Json.table? (Json.freeForm? propertyRoom)) .empty
    constraints := ← orElse? fs "constraints" Json.texts? [] }

/-- The JSON value of a body. -/
def toJson (e : Entity) : Json := .object [
  ("id", .text e.id),
  ("kind", .ofKind e.kind),
  ("position", e.position.toJson),
  ("velocity", e.velocity.toJson),
  ("acceleration", e.acceleration.toJson),
  ("mass", .float e.mass),
  ("properties", .ofTable (fun v => v) e.properties),
  ("constraints", .ofTexts e.constraints)]

end Entity

namespace Constraint

/-- A constraint from a JSON value. -/
def ofJson? (v : Json) : Option Constraint := do
  let fs ← Json.fields? (plainNames ["id", "kind", "expression"]) v
  return {
    id := ← required? fs "id" text?
    kind := ← required? fs "kind" (readKind? ConstraintKind)
    expression := ← required? fs "expression" text? }

/-- The JSON value of a constraint. -/
def toJson (c : Constraint) : Json := .object [
  ("id", .text c.id), ("kind", .ofKind c.kind), ("expression", .text c.expression)]

end Constraint

/-! ## §4 Sections -/

namespace Metadata

/-- The fields of the metadata. -/
def names : Fields.Names := plainNames [
  "id", "version", "topic", "difficulty", "domains", "complexity_score", "estimated_solve_time"]

/-- Metadata from a JSON value. -/
def ofJson? (v : Json) : Option Metadata := do
  let fs ← Json.fields? names v
  return {
    id := ← required? fs "id" text?
    version := ← required? fs "version" text?
    topic := ← orElse? fs "topic" text? ""
    difficulty := ← orElse? fs "difficulty" text? ""
    domains := ← orElse? fs "domains" (Json.list? (readKind? Domain)) []
    complexityScore := ← required? fs "complexity_score" number?
    estimatedSolveTime := ← required? fs "estimated_solve_time" number? }

/-- The JSON value of metadata. -/
def toJson (d : Metadata) : Json := .object [
  ("id", .text d.id),
  ("version", .text d.version),
  ("topic", .text d.topic),
  ("difficulty", .text d.difficulty),
  ("domains", .ofList .ofKind d.domains),
  ("complexity_score", .float d.complexityScore),
  ("estimated_solve_time", .float d.estimatedSolveTime)]

end Metadata

namespace Environment

/-- The fields of the ambient conditions. -/
def names : Fields.Names := plainNames [
  "gravity", "temperature", "friction", "restitution", "air_resistance", "drag_coefficient"]

/-- Ambient conditions from a JSON value. -/
def ofJson? (v : Json) : Option Environment := do
  let fs ← Json.fields? names v
  return {
    gravity := ← required? fs "gravity" number?
    temperature := ← required? fs "temperature" number?
    friction := ← required? fs "friction" number?
    restitution := ← required? fs "restitution" number?
    airResistance := ← required? fs "air_resistance" bool?
    dragCoefficient := ← required? fs "drag_coefficient" number? }

/-- The JSON value of ambient conditions. -/
def toJson (e : Environment) : Json := .object [
  ("gravity", .float e.gravity),
  ("temperature", .float e.temperature),
  ("friction", .float e.friction),
  ("restitution", .float e.restitution),
  ("air_resistance", .bool e.airResistance),
  ("drag_coefficient", .float e.dragCoefficient)]

end Environment

namespace SystemDescription

/-- The fields of a system description. -/
def names : Fields.Names :=
  plainNames ["system_type", "dimensions", "coordinate_system", "environment"]

/-- A system description from a JSON value. -/
def ofJson? (v : Json) : Option SystemDescription := do
  let fs ← Json.fields? names v
  return {
    systemType := ← required? fs "system_type" text?
    dimensions := ← required? fs "dimensions" (count? 255)
    coordinateSystem := ← required? fs "coordinate_system" text?
    environment := ← required? fs "environment" Environment.ofJson? }

/-- The JSON value of a system description. -/
def toJson (s : SystemDescription) : Json := .object [
  ("system_type", .text s.systemType),
  ("dimensions", .ofNat s.dimensions),
  ("coordinate_system", .text s.coordinateSystem),
  ("environment", s.environment.toJson)]

end SystemDescription

namespace Hints

/-- The fields of the hints. -/
def names : Fields.Names :=
  plainNames ["constant_cache", "differential_cache", "module_graph", "parallel_groups"]

/-- Hints from a JSON value. -/
def ofJson? (v : Json) : Option Hints := do
  let fs ← Json.fields? names v
  return {
    constants := ← orElse? fs "constant_cache" (Json.table? number?) .empty
    differentials := ← orElse? fs "differential_cache" (Json.table? text?) .empty
    moduleGraph := ← orElse? fs "module_graph" (Json.table? Json.texts?) .empty
    layers := ← orElse? fs "parallel_groups" (Json.list? Json.texts?) [] }

/-- The JSON value of hints. -/
def toJson (h : Hints) : Json := .object [
  ("constant_cache", .ofTable .float h.constants),
  ("differential_cache", .ofTable .text h.differentials),
  ("module_graph", .ofTable .ofTexts h.moduleGraph),
  ("parallel_groups", .ofList .ofTexts h.layers)]

end Hints

/-! ## §5 Models -/

namespace Model

/-- The fields of a model. -/
def names : Fields.Names := plainNames [
  "metadata", "system", "parameters", "entities", "modules", "constraints", "conservation_laws",
  "symmetries", "simulation", "output", "optimization"]

/-- A model from a JSON value. -/
def ofJson? (v : Json) : Option Model := do
  let fs ← Json.fields? names v
  return {
    metadata := ← optional? fs "metadata" Metadata.ofJson?
    system := ← optional? fs "system" SystemDescription.ofJson?
    parameters := ← orElse? fs "parameters" (Json.table? Parameter.ofJson?) .empty
    entities := ← orElse? fs "entities" (Json.list? Entity.ofJson?) []
    modules := ← orElse? fs "modules" (Json.list? PhysicsModule.ofJson?) []
    constraints := ← orElse? fs "constraints" (Json.list? Constraint.ofJson?) []
    conservationLaws := ← orElse? fs "conservation_laws" (Json.list? ConservationLaw.ofJson?) []
    symmetries := ← orElse? fs "symmetries" Json.texts? []
    simulation := ← optional? fs "simulation" SimulationSettings.ofJson?
    output := ← optional? fs "output" OutputSettings.ofJson?
    hints := ← orElse? fs "optimization" Hints.ofJson? {} }

/-- The JSON value of a model. -/
def toJson (m : Model) : Json := .object [
  ("metadata", .ofOption Metadata.toJson m.metadata),
  ("system", .ofOption SystemDescription.toJson m.system),
  ("parameters", .ofTable Parameter.toJson m.parameters),
  ("entities", .ofList Entity.toJson m.entities),
  ("modules", .ofList PhysicsModule.toJson m.modules),
  ("constraints", .ofList Constraint.toJson m.constraints),
  ("conservation_laws", .ofList ConservationLaw.toJson m.conservationLaws),
  ("symmetries", .ofTexts m.symmetries),
  ("simulation", .ofOption SimulationSettings.toJson m.simulation),
  ("output", .ofOption OutputSettings.toJson m.output),
  ("optimization", m.hints.toJson)]

/-- The model that a document describes, its numbers read by a conversion. -/
def parse? (convert : Json.Numeral → Float) (document : String) : Option Model :=
  (Json.parse? convert document).bind ofJson?

/-- The indented document of a model. -/
def document (m : Model) : String := m.toJson.pretty

end Model

end PhysicsLab
