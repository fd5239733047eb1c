import PhysicsLab.Json
import PhysicsLab.Settings
import PhysicsLab.Table
import PhysicsLab.Vec3

/-!
# Problems

A problem as it is stated: parameters with values and units, objects, constraints in words, and
hints about the kind of system.  A model is built from it.
-/

namespace PhysicsLab

/-- A stated parameter. -/
structure StatedParameter where
  symbol : String
  value : Float
  /-- Empty for a value without dimension. -/
  unit : String := ""
  role : String := ""
  description : String := ""
  formula : Option String := none
  uncertainty : Option Float := none
  deriving DecidableEq

/-- A vector as it is stated: one number along the first axis, a list of coordinates, or coordinates
by name. -/
inductive StatedVector where
  | scalar (x : Float)
  | components (xs : List Float)
  | named (x y z : Float)
  deriving DecidableEq

/-- The vector; missing coordinates are zero. -/
def StatedVector.toVec3 : StatedVector → Vec3
  | scalar x => ⟨x, 0.0, 0.0⟩
  | components xs => ⟨xs.getD 0 0.0, xs.getD 1 0.0, xs.getD 2 0.0⟩
  | named x y z => ⟨x, y, z⟩

/-- A stated object. -/
structure StatedObject where
  id : String
  kind : String := ""
  mass : Option Float := none
  position : Option StatedVector := none
  velocity : Option StatedVector := none
  acceleration : Option StatedVector := none
  properties : Table Json := .empty
  constraints : List String := []

/-- A stated problem. -/
structure Problem where
  parameters : List StatedParameter := []
  objects : List StatedObject := []
  constraints : List String := []
  systemType : String := ""
  topic : String := ""
  difficulty : String := ""
  text : String := ""
  /-- Modules to be used in any case. -/
  modules : List String := []
  simulation : Option SimulationSettings := none

/-- The symbols of the stated parameters. -/
def Problem.symbols (p : Problem) : List String := p.parameters.map StatedParameter.symbol

/-- The words about the problem, in which keywords are looked for. -/
def Problem.freeText (p : Problem) : String :=
  String.intercalate " " ([p.systemType, p.topic, p.text].filter fun s => !s.isEmpty)

end PhysicsLab
