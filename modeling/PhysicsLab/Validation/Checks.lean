import PhysicsLab.Formula
import PhysicsLab.Graph
import PhysicsLab.Validation.Finding

/-!
# Checks of a model

One check for each aspect.  A check lists its findings in a fixed order; errors and warnings may be
mixed.

## Main definitions

* `structural`, `logical`, `dependency`, `physics`, `units`, `equations`
* `Aspect.check` — the check of an aspect
-/

namespace PhysicsLab.Validation

open PhysicsLab.Text

/-- A finding, where the condition for it holds. -/
def findIf (condition : Bool) (f : Finding) : List Finding := if condition then [f] else []

/-! ## §1 Structure -/

/-- Whether a number is finite and above zero. -/
def isPositive (x : Float) : Bool := x.isFinite && x > 0.0

/-- Findings about the settings of the simulation. -/
def settingsFindings (s : SimulationSettings) : List Finding :=
  findIf (!isPositive s.duration) (.badDuration s.duration) ++
  findIf (!isPositive s.timeStep) (.badTimeStep s.timeStep) ++
  findIf (s.duration > 0.0 && s.timeStep > 0.0 && s.duration / s.timeStep < Finding.stepsPerRun)
    (.coarseTimeStep s.timeStep s.duration)

/-- The sections are there, the settings are positive, and there is something to simulate. -/
def structural (m : Model) : List Finding :=
  findIf m.metadata.isNone (.missingSection "metadata") ++
  findIf m.system.isNone (.missingSection "system") ++
  findIf m.simulation.isNone (.missingSection "simulation") ++
  findIf m.output.isNone (.missingSection "output") ++
  (match m.simulation with
    | some s => settingsFindings s
    | none => []) ++
  findIf m.modules.isEmpty .noModules ++
  findIf m.entities.isEmpty .noBodies

/-! ## §2 Tables -/

/-- The value of an unknown below which it counts as not set. -/
def presetFloor : Float := 1e-9

/-- Findings about an entry of the table of parameters. -/
def entryFindings (key : String) (p : Parameter) : List Finding :=
  (if isBlankText p.symbol then [.emptySymbol key]
    else findIf (key != p.symbol) (.misplacedSymbol key p.symbol)) ++
  findIf (p.role == .unknown && p.quantity.value.abs > presetFloor)
    (.presetUnknown p.symbol p.quantity.value)

/-- The symbols that several entries hold, in the order of their messages. -/
def repeatedSymbols (symbols : List String) : List Finding :=
  -- Sorted, because no other order of repeated symbols suggests itself.
  ((symbols.eraseDups.filter fun s => 1 < symbols.count s).map fun s =>
    Finding.repeatedSymbol s (symbols.count s)).mergeSort
      fun f g => f.message < g.message || f.message == g.message

/-- Each entry of the table holds the parameter of its key, and the table holds every parameter of a
module. -/
def logical (m : Model) : List Finding :=
  (m.parameters.entries.flatMap fun e => entryFindings e.1 e.2) ++
  repeatedSymbols (m.parameters.values.map Parameter.symbol) ++
  m.modules.flatMap fun b =>
    (b.parameters.keys.filter fun s => !m.parameters.has s).map (.unregistered b.id)

/-! ## §3 Dependencies -/

/-- The ids that occur before in a list, one finding for each time. -/
def duplicates : List String → List String → List Finding
  | _, [] => []
  | before, id :: rest =>
    findIf (before.contains id) (.duplicateModule id) ++ duplicates (id :: before) rest

/-- The declared dependencies of modules, from the module that declares it. -/
def moduleLinks (m : Model) : List (String × String) :=
  m.modules.flatMap fun b => b.dependencies.map fun d => (b.id, d)

/-- The graph of the modules. -/
def moduleGraph (m : Model) : Graph String :=
  let ids := m.modules.map PhysicsModule.id
  -- A dependency on a module that does not exist is a finding of its own and no edge.
  ⟨ids.eraseDups, (moduleLinks m).filter fun l => ids.contains l.2⟩

/-- The declared dependencies of parameters, from the symbol of the parameter that declares it. -/
def parameterLinks (m : Model) : List (String × String) :=
  m.parameters.values.flatMap fun p => p.dependencies.map fun d => (p.symbol, d)

/-- Whether both ends of a link are keys of the table of parameters. -/
def isResolved (m : Model) (l : String × String) : Bool :=
  m.parameters.has l.1 && m.parameters.has l.2

/-- The graph of the parameters. -/
def parameterGraph (m : Model) : Graph String :=
  ⟨m.parameters.keys, (parameterLinks m).filter (isResolved m)⟩

/-- Ids are distinct, dependencies exist, and neither modules nor parameters depend on themselves.
-/
def dependency (m : Model) : List Finding :=
  let ids := m.modules.map PhysicsModule.id
  duplicates [] ids ++
  (((moduleLinks m).filter fun l => !ids.contains l.2).map fun l => .missingModule l.1 l.2) ++
  findIf (moduleGraph m).isCyclic .moduleCycle ++
  (((parameterLinks m).filter fun l => !isResolved m l).map fun l =>
    .undefinedDependency l.1 l.2) ++
  (parameterGraph m).cycleVertex?.toList.map .parameterCycle

/-! ## §4 Physics -/

/-- Whether a parameter has a dimension. -/
def carries (m : Model) (d : Exponents) : Bool :=
  m.parameters.values.any fun p => p.quantity.dimension == .known d

/-- Whether the parameters or bodies of a model can say how much there is of a conserved quantity.
-/
def represents (m : Model) : Conserved → Bool
  | .energy => carries m .energy || (carries m .mass && carries m .velocity)
  | .momentum => carries m .momentum || (carries m .mass && carries m .velocity)
  | .angularMomentum =>
    carries m .angularMomentum || (carries m .mass && carries m .velocity && carries m .length)
  | .charge => carries m .charge
  | .mass => carries m .mass || !m.entities.isEmpty
  | .bodyCount => !m.entities.isEmpty

/-- The finding about a parameter whose dimension is not the expected one. -/
def dimensionFinding (systemType : String) (p : Parameter) : List Finding :=
  match Convention.expectedDimension? p.symbol systemType, p.quantity.dimension with
  | some expected, .known actual =>
    findIf (actual != expected) (.wrongDimension p.symbol actual expected)
  | _, _ => []

/-- Findings about the ambient conditions. -/
def environmentFindings (e : Environment) : List Finding :=
  findIf (!(e.gravity.isFinite && e.gravity ≥ 0.0)) (.badGravity e.gravity) ++
  findIf (!(e.temperature.isFinite && e.temperature ≥ 0.0)) (.badTemperature e.temperature) ++
  findIf (!(0.0 ≤ e.restitution && e.restitution ≤ 1.0)) (.oddRestitution e.restitution)

/-- Findings about a body. -/
def bodyFindings (b : Entity) : List Finding :=
  findIf (!isPositive b.mass) (.badMass b.id b.mass) ++
  findIf (!(b.position.isFinite && b.velocity.isFinite)) (.nonFiniteState b.id)

/-- Dimensions are the expected ones, and conditions and bodies are possible. -/
def physics (m : Model) : List Finding :=
  (m.parameters.values.flatMap (dimensionFinding m.systemType)) ++
  (match m.system with
    | some s => environmentFindings s.environment
    | none => []) ++
  m.entities.flatMap bodyFindings ++
  ((m.conservationLaws.filter fun l => !represents m l.kind).map fun l =>
    .unrepresentedLaw l.kind)

/-! ## §5 Units -/

/-- Findings about the unit of a parameter. -/
def unitFindings (p : Parameter) : List Finding :=
  let unit := trim p.quantity.unit
  if unit.isEmpty then [.missingUnit p.symbol (Convention.dimension? p.symbol none)]
  else
    -- A unit that cannot be understood is not also called uncommon.
    (if p.quantity.dimension.isUnknown then [.unknownUnit p.symbol unit]
      else findIf (!Convention.isAllowedUnit unit) (.uncommonUnit p.symbol unit)) ++
    findIf (Convention.timeSymbols.contains p.symbol && unit != "s") (.timeUnit p.symbol unit) ++
    findIf (p.symbol == "g" && !Convention.accelerationUnits.contains unit) (.gravityUnit unit)

/-- Every parameter has a unit that can be understood. -/
def units (m : Model) : List Finding := m.parameters.values.flatMap unitFindings

/-! ## §6 Equations -/

/-- The names that an equation mentions: in its expression, and in its lists. -/
def namesOf (e : Equation) : List String :=
  (Formula.identifiers e.expression ++ e.symbols ++ e.parameters).eraseDups

/-- Findings about an equation of a module. -/
def equationFindings (m : Model) (b : PhysicsModule) (e : Equation) : List Finding :=
  if isBlankText e.expression then [.emptyEquation e.id]
  else
    findIf (Formula.hasUndefinedMarker e.expression) (.undefinedTerm e.id) ++
    ((namesOf e).filter fun name => !(b.parameters.has name || m.parameters.has name)).map
      fun name => .unresolvedName e.id name (Convention.dimension? name (some b.domain))

/-- Every name in an equation is that of a parameter. -/
def equations (m : Model) : List Finding :=
  m.modules.flatMap fun b => b.equations.flatMap (equationFindings m b)

/-! ## §7 All aspects -/

/-- The findings under an aspect. -/
def Aspect.check : Aspect → Model → List Finding
  | .structural => Validation.structural
  | .logical => Validation.logical
  | .dependency => Validation.dependency
  | .physics => Validation.physics
  | .units => Validation.units
  | .equations => Validation.equations

end PhysicsLab.Validation
