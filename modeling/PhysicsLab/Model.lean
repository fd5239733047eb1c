import PhysicsLab.Conservation
import PhysicsLab.Domain
import PhysicsLab.Json
import PhysicsLab.Parameter
import PhysicsLab.Settings
import PhysicsLab.Vec3

/-!
# Models

A model is the complete description of a physical problem that validation checks and a simulation
runs: parameters, bodies, the knowledge blocks that apply, constraints, conservation laws and
settings.

Some sections may be missing from a model that was read from a document.  Defaults stand in for
them, so that every accessor is total.

## Main definitions

* `Equation`, `PhysicsModule`, `Entity`, `Constraint`, `Environment` — the parts of a model
* `Model` — the whole
* `Model.value?` — the SI value of a parameter
-/

namespace PhysicsLab

open PhysicsLab.Text

/-! ## §1 Modules -/

/-- What an equation is. -/
inductive EquationKind where
  | differential
  | algebraic
  | constraint
  | conservation
  | definition
  deriving DecidableEq, Inhabited

instance : Labelled EquationKind where
  all := [.differential, .algebraic, .constraint, .conservation, .definition]
  label
    | .differential => "differential"
    | .algebraic => "algebraic"
    | .constraint => "constraint"
    | .conservation => "conservation"
    | .definition => "definition"

/-- A governing equation. -/
structure Equation where
  id : String
  kind : EquationKind
  expression : String
  /-- Every name in the expression. -/
  symbols : List String := []
  /-- The names whose values are inputs. -/
  parameters : List String := []
  /-- The order of the derivatives. -/
  order : Option Nat := none
  linear : Bool := false
  meaning : String := ""
  deriving DecidableEq

/-- How much a knowledge block presupposes. -/
inductive ComplexityTier where
  | basic
  | intermediate
  | advanced
  deriving DecidableEq, Inhabited

instance : Labelled ComplexityTier where
  all := [.basic, .intermediate, .advanced]
  label
    | .basic => "basic"
    | .intermediate => "intermediate"
    | .advanced => "advanced"

/-- A block of physical knowledge in a model. -/
structure PhysicsModule where
  id : String
  name : String
  description : String := ""
  domain : Domain
  parameters : Table Parameter := .empty
  equations : List Equation := []
  /-- The modules that this one builds on. -/
  dependencies : List String := []
  conservationLaws : List ConservationLaw := []
  assumptions : List String := []
  limitations : List String := []
  complexity : ComplexityTier := .basic
  outputs : List String := []

/-! ## §2 Bodies and constraints -/

/-- What a body is. -/
inductive EntityKind where
  | particle
  | rigidBody
  | field
  | wave
  deriving DecidableEq, Inhabited

instance : Labelled EntityKind where
  all := [.particle, .rigidBody, .field, .wave]
  label
    | .particle => "particle"
    | .rigidBody => "rigid_body"
    | .field => "field"
    | .wave => "wave"

/-- The kind that a free label names; a label that is not understood names a particle. -/
def EntityKind.ofText (label : String) : EntityKind :=
  let small := toSmall label
  if containsAny small ["rigid", "block", "box"] then rigidBody
  else if contains small "field" then field
  else if contains small "wave" then wave
  else particle

/-- A body as the model states it. -/
structure Entity where
  id : String
  kind : EntityKind := .particle
  position : Vec3 := .zero
  velocity : Vec3 := .zero
  acceleration : Vec3 := .zero
  mass : Float := 1.0
  /-- Further properties, of any shape. -/
  properties : Table Json := .empty
  constraints : List String := []

/-- The number that a property is. -/
def Entity.property? (e : Entity) (key : String) : Option Float :=
  (e.properties.get? key).bind Json.number?

/-- What a constraint constrains. -/
inductive ConstraintKind where
  | equality
  | inequality
  | boundary
  | initial
  | physical
  deriving DecidableEq, Inhabited

instance : Labelled ConstraintKind where
  all := [.equality, .inequality, .boundary, .initial, .physical]
  label
    | .equality => "equality"
    | .inequality => "inequality"
    | .boundary => "boundary"
    | .initial => "initial"
    | .physical => "physical"

/-- The kind of a constraint that is stated in words. -/
def ConstraintKind.ofText (text : String) : ConstraintKind :=
  let small := toSmall text
  if containsAny small ["initial", "t=0", "t = 0", "at rest", "starts", "released"] then initial
  else if containsAny small ["boundary", "wall", "ground", "floor", "ceiling", "surface"] then
    boundary
  else if containsAny small ["<=", ">=", "<", ">", "≤", "≥"] then inequality
  else if contains small "=" then equality
  else physical

/-- A constraint stated in words. -/
structure Constraint where
  id : String
  kind : ConstraintKind
  expression : String
  deriving DecidableEq

/-! ## §3 Sections -/

/-- What a model is about. -/
structure Metadata where
  id : String
  version : String
  topic : String := ""
  difficulty : String := ""
  domains : List Domain := []
  /-- From 0 to 100. -/
  complexityScore : Float
  /-- In seconds. -/
  estimatedSolveTime : Float
  deriving DecidableEq

/-- Ambient conditions. -/
structure Environment where
  /-- Downward acceleration in m/s². -/
  gravity : Float := Units.standardGravity
  /-- In kelvin. -/
  temperature : Float := Units.roomTemperature
  /-- Coefficient of friction on the ground. -/
  friction : Float := 0.0
  /-- Part of the speed that a body keeps when it bounces off the ground. -/
  restitution : Float := 0.8
  airResistance : Bool := false
  /-- In kg/s. -/
  dragCoefficient : Float := 0.0
  deriving DecidableEq, Inhabited

/-- The kind of system and its surroundings. -/
structure SystemDescription where
  systemType : String
  /-- Coordinates in use, one to three. -/
  dimensions : Nat
  coordinateSystem : String
  environment : Environment
  deriving DecidableEq

/-- Values worked out in advance. -/
structure Hints where
  /-- The SI values of the constants. -/
  constants : Table Float := .empty
  /-- The expressions of the differential equations. -/
  differentials : Table String := .empty
  /-- The modules that each module builds on. -/
  moduleGraph : Table (List String) := .empty
  /-- Layers of modules that do not build on each other. -/
  layers : List (List String) := []

/-- The complete description of a problem. -/
structure Model where
  metadata : Option Metadata := none
  system : Option SystemDescription := none
  parameters : Table Parameter := .empty
  entities : List Entity := []
  modules : List PhysicsModule := []
  constraints : List Constraint := []
  conservationLaws : List ConservationLaw := []
  symmetries : List String := []
  simulation : Option SimulationSettings := none
  output : Option OutputSettings := none
  hints : Hints := {}

namespace Model

/-- The settings of the simulation. -/
def simulationSettings (m : Model) : SimulationSettings := m.simulation.getD {}

/-- The ambient conditions. -/
def environment (m : Model) : Environment := (m.system.map SystemDescription.environment).getD {}

/-- The kind of system. -/
def systemType (m : Model) : String := (m.system.map SystemDescription.systemType).getD ""

/-- The SI value of a parameter: that of a constant, or one from the table. -/
def value? (m : Model) (symbol : String) : Option Float :=
  match m.hints.constants.get? symbol with
  | some v => some v
  | none => (m.parameters.get? symbol).map Parameter.siValue

/-- The SI value of the first of some symbols that has one. -/
def firstValue? (m : Model) (symbols : List String) : Option Float := symbols.findSome? m.value?

/-- Whether a module belongs to a domain. -/
def hasDomain (m : Model) (d : Domain) : Bool := m.modules.any fun b => b.domain == d

/-- The module with an id. -/
def module? (m : Model) (id : String) : Option PhysicsModule :=
  m.modules.find? fun b => b.id == id

end Model

end PhysicsLab
