import PhysicsLab.Json.Printer
import PhysicsLab.Json.Reader
import PhysicsLab.Problem
import PhysicsLab.Settings.Document

/-!
# Problems in documents

Problems are read from JSON documents and written to them.  Writing and reading are inverse to each
other for problems whose numbers are finite.

The compact document of a problem, with the fields in the order of this module, is also what the id
of a model is derived from.
-/

namespace PhysicsLab

open Fields Scalars

/-- The levels that a free-form property may be nested: a document has at most 127, and a property
of an object lies on the fifth. -/
def propertyRoom : Nat := 123

/-- The levels that a vector may be nested: it lies on the fourth. -/
def vectorRoom : Nat := 124

/-! ## Parameters -/

namespace StatedParameter

/-- The fields of a stated parameter. -/
def names : Fields.Names := [
  ("symbol", ["name"]), ("value", []), ("unit", []), ("role", []), ("description", []),
  ("formula", []), ("uncertainty", [])]

/-- A stated parameter from a JSON value. -/
def ofJson? (v : Json) : Option StatedParameter := do
  let fs ← Json.fields? names v
  return {
    symbol := ← required? fs "symbol" text?
    value := ← required? fs "value" number?
    unit := ← orElse? fs "unit" text? ""
    role := ← orElse? fs "role" text? ""
    description := ← orElse? fs "description" text? ""
    formula := ← optional? fs "formula" text?
    uncertainty := ← optional? fs "uncertainty" number? }

/-- The JSON value of a stated parameter. -/
def toJson (p : StatedParameter) : Json := .object ([
  ("symbol", .text p.symbol),
  ("value", .float p.value),
  ("unit", .text p.unit),
  ("role", .text p.role),
  ("description", .text p.description)] ++
  Json.optionalMember "formula" .text p.formula ++
  Json.optionalMember "uncertainty" .float p.uncertainty)

end StatedParameter

/-! ## Vectors -/

namespace StatedVector

/-- A stated vector from a JSON value.  Its form is only known when all of it has been read, so the
members that are passed over must denote values too. -/
def ofJson? (v : Json) : Option StatedVector :=
  match v with
  | .array items => (items.mapM number?).map components
  | .object members => do
    let _ ← Json.freeForm? vectorRoom v
    let fs ← collect? (plainNames ["x", "y", "z"]) members
    return named (← orElse? fs "x" number? 0.0) (← orElse? fs "y" number? 0.0)
      (← orElse? fs "z" number? 0.0)
  | _ => (number? v).map scalar

/-- The JSON value of a stated vector. -/
def toJson : StatedVector → Json
  | scalar x => .float x
  | components xs => .ofList .float xs
  | named x y z => .object [("x", .float x), ("y", .float y), ("z", .float z)]

end StatedVector

/-! ## Objects -/

namespace StatedObject

/-- The fields of a stated object. -/
def names : Fields.Names := [
  ("id", ["name"]), ("type", []), ("mass", []), ("position", []), ("velocity", []),
  ("acceleration", []), ("properties", []), ("constraints", [])]

/-- A stated object from a JSON value. -/
def ofJson? (v : Json) : Option StatedObject := do
  let fs ← Json.fields? names v
  return {
    id := ← required? fs "id" text?
    kind := ← orElse? fs "type" text? ""
    mass := ← optional? fs "mass" number?
    position := ← optional? fs "position" StatedVector.ofJson?
    velocity := ← optional? fs "velocity" StatedVector.ofJson?
    acceleration := ← optional? fs "acceleration" StatedVector.ofJson?
    properties := ← orElse? fs "properties" (Json.table? (Json.freeForm? propertyRoom)) .empty
    constraints := ← orElse? fs "constraints" Json.texts? [] }

/-- The JSON value of a stated object. -/
def toJson (o : StatedObject) : Json := .object [
  ("id", .text o.id),
  ("type", .text o.kind),
  ("mass", .ofOption .float o.mass),
  ("position", .ofOption StatedVector.toJson o.position),
  ("velocity", .ofOption StatedVector.toJson o.velocity),
  ("acceleration", .ofOption StatedVector.toJson o.acceleration),
  ("properties", .ofTable (fun v => v) o.properties),
  ("constraints", .ofTexts o.constraints)]

end StatedObject

/-! ## Problems -/

namespace Problem

/-- The fields of a problem. -/
def names : Fields.Names := plainNames [
  "parameters", "objects", "constraints", "system_type", "topic", "difficulty", "text", "modules",
  "simulation"]

/-- A problem from a JSON value. -/
def ofJson? (v : Json) : Option Problem := do
  let fs ← Json.fields? names v
  return {
    parameters := ← orElse? fs "parameters" (Json.list? StatedParameter.ofJson?) []
    objects := ← orElse? fs "objects" (Json.list? StatedObject.ofJson?) []
    constraints := ← orElse? fs "constraints" Json.texts? []
    systemType := ← orElse? fs "system_type" text? ""
    topic := ← orElse? fs "topic" text? ""
    difficulty := ← orElse? fs "difficulty" text? ""
    text := ← orElse? fs "text" text? ""
    modules := ← orElse? fs "modules" Json.texts? []
    simulation := ← optional? fs "simulation" SimulationSettings.ofJson? }

/-- The JSON value of a problem. -/
def toJson (p : Problem) : Json := .object [
  ("parameters", .ofList StatedParameter.toJson p.parameters),
  ("objects", .ofList StatedObject.toJson p.objects),
  ("constraints", .ofTexts p.constraints),
  ("system_type", .text p.systemType),
  ("topic", .text p.topic),
  ("difficulty", .text p.difficulty),
  ("text", .text p.text),
  ("modules", .ofTexts p.modules),
  ("simulation", .ofOption SimulationSettings.toJson p.simulation)]

/-- The problem that a document states, its numbers read by a conversion. -/
def parse? (convert : Json.Numeral → Float) (document : String) : Option Problem :=
  (Json.parse? convert document).bind ofJson?

/-- The compact document of a problem. -/
def document (p : Problem) : String := p.toJson.compact

end Problem

end PhysicsLab
