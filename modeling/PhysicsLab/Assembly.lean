import PhysicsLab.Assembly.Bodies
import PhysicsLab.Assembly.Hints
import PhysicsLab.Assembly.Modules
import PhysicsLab.Digest
import PhysicsLab.Number.Arithmetic
import PhysicsLab.Problem.Document

/-!
# Assembly of models

A model is assembled from a problem, a library and the settings of a run.  Assembly never fails:
what is missing is replaced by a default, and what is wrong is left for validation to report.

## Main definitions

* `Problem.metadata`, `statedConstraints`, `lawsOf`, `symmetriesOf`, `environmentOf` — the sections
* `Problem.toModel` — the whole
-/

namespace PhysicsLab

open PhysicsLab.Text PhysicsLab.Number

/-! ## §1 Metadata -/

/-- How hard a problem is, by the label that states its difficulty. -/
def difficultyWeight (label : String) : Float :=
  let word := toSmall (trim label)
  if ["easy", "beginner", "basic"].contains word then 20.0
  else if ["medium", "intermediate"].contains word then 40.0
  else if ["hard", "advanced"].contains word then 60.0
  else if ["expert", "olympiad"].contains word then 80.0
  else 30.0

/-- What a domain adds to the complexity of a problem. -/
def Domain.complexity : Domain → Float
  | kinematics => 5.0
  | dynamics => 10.0
  | oscillation => 10.0
  | thermal => 10.0
  | optical => 10.0
  | wave => 15.0
  | fluid => 15.0
  | electromagnetic => 20.0
  | quantum => 25.0
  | relativistic => 25.0
  | generic => 0.0

/-- By what a domain multiplies the time needed for a problem. -/
def Domain.timeFactor : Domain → Float
  | quantum => 2.0
  | relativistic => 2.0
  | electromagnetic => 1.5
  | fluid => 1.5
  | wave => 1.3
  | thermal => 1.3
  | _ => 1.0

/-- The complexity of a problem, from 0 to 100. -/
def complexityScore (difficulty : String) (domains : List Domain) : Float :=
  clamp 0.0 100.0 (difficultyWeight difficulty + sum (domains.map Domain.complexity))

/-- The id of a problem: the head of the digest of its document. -/
def Problem.modelId (p : Problem) : String :=
  "ir-" ++ String.ofList ((Digest.digestHex (Digest.textBytes p.document)).toList.take 16)

/-- The version of the form of models. -/
def modelVersion : String := "2.0"

/-- What the model of a problem is about. -/
def Problem.metadata (p : Problem) : Metadata :=
  let domains := Domain.mentionedIn p.freeText
  let score := complexityScore p.difficulty domains
  { id := p.modelId
    version := modelVersion
    topic := p.topic
    difficulty := p.difficulty
    domains
    complexityScore := score
    estimatedSolveTime := score * (domains.map Domain.timeFactor).foldl larger 1.0 }

/-! ## §2 Constraints, laws and symmetries -/

/-- The constraints that are stated in words; blank ones are passed over. -/
def statedConstraints (texts : List String) : List Constraint :=
  (texts.filter fun t => !isBlankText t).zipIdx.map fun (t, place) =>
    { id := "constraint_" ++ writeNat place, kind := .ofText t, expression := trim t }

/-- The laws of some modules, one about each quantity. -/
def lawsOf (modules : List PhysicsModule) : List ConservationLaw :=
  onePerKind (modules.flatMap PhysicsModule.conservationLaws)

/-- Parts of the names of systems, and the symmetries of those systems. -/
def symmetryRules : List (List String × List String) := [
  (["projectile", "fall", "throw", "launch"], ["translational_x", "time_translation"]),
  (["spring", "oscillat", "pendulum", "harmonic"], ["time_reversal", "parity"]),
  (["orbit", "circular", "central", "rotation"], ["rotational", "time_translation"]),
  (["wave", "string"], ["translational", "time_translation"]),
  (["collision", "particle"], ["translational", "galilean"])]

/-- The symmetries of a system; any system is the same at all times. -/
def symmetriesOf (systemType : String) : List String :=
  let system := toSmall systemType
  let found := (symmetryRules.filter fun rule => containsAny system rule.1).flatMap Prod.snd
  if found.isEmpty then ["time_translation"] else found.eraseDups

/-! ## §3 Surroundings -/

/-- Whether bodies in a domain are not subject to gravity. -/
def Domain.ignoresGravity (d : Domain) : Bool :=
  [electromagnetic, wave, quantum, optical, relativistic].contains d

/-- The ambient conditions that the parameters state. -/
def environmentOf (parameters : Table Parameter) (modules : List PhysicsModule) : Environment :=
  let weightless := !modules.isEmpty && modules.all fun b => b.domain.ignoresGravity
  let drag := (firstValue? parameters ["b_drag", "drag"]).getD 0.0
  { gravity := (firstValue? parameters ["g"]).getD
      (if weightless then 0.0 else Units.standardGravity)
    temperature := (firstValue? parameters ["T_env", "T_ambient"]).getD Units.roomTemperature
    friction := (firstValue? parameters ["mu", "mu_k"]).getD 0.0
    restitution := (firstValue? parameters ["e", "restitution"]).getD 0.8
    airResistance := 0.0 < drag
    dragCoefficient := drag }

/-! ## §4 The model -/

/-- The model of a problem. -/
def Problem.toModel (p : Problem) (l : Library) (settings : RunSettings) : Model :=
  let stated := statedTable p.parameters
  let bodies := p.bodies stated
  let modules := p.modulesWith l stated
  let parameters := mergeModules stated modules
  { metadata := some p.metadata
    system := some {
      systemType := p.systemType
      dimensions := usedDimensions bodies
      coordinateSystem := "cartesian"
      environment := environmentOf parameters modules }
    parameters
    entities := bodies
    modules
    constraints := statedConstraints p.constraints
    conservationLaws := lawsOf modules
    symmetries := symmetriesOf p.systemType
    -- What the problem says about its own simulation goes first.
    simulation := some (p.simulation.getD settings.simulation)
    output := some settings.output
    hints := .of parameters modules }

end PhysicsLab
