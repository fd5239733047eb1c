import PhysicsLab.Model.Document
import PhysicsLab.Simulation.Run

/-!
# Simulations in documents

The JSON values of rules, samples and runs.  A rule can also be read: the field `rule` says which
one it is, or the first of its items, where they are given by position.
-/

namespace PhysicsLab

open Fields Scalars

/-! ## §1 Bodies and samples -/

/-- The JSON value of the state of a body. -/
def Body.toJson (b : Body) : Json := .object ([
  ("id", .text b.id),
  ("position", b.position.toJson),
  ("velocity", b.velocity.toJson),
  ("acceleration", b.acceleration.toJson),
  ("mass", .float b.mass),
  ("charge", .float b.charge)] ++
  Json.optionalMember "temperature" .float b.temperature)

/-- The JSON value of an energy. -/
def Energy.toJson (e : Energy) : Json := .object [
  ("kinetic", .float e.kinetic), ("potential", .float e.potential), ("total", .float e.total)]

/-- The JSON value of a sample. -/
def Sample.toJson (s : Sample) : Json := .object [
  ("time", .float s.time),
  ("entities", .ofList Body.toJson s.bodies),
  ("energy", s.energy.toJson),
  ("momentum", s.momentum.toJson),
  ("angular_momentum", s.angularMomentum.toJson),
  ("center_of_mass", s.centerOfMass.toJson),
  ("total_mass", .float s.mass),
  ("total_charge", .float s.charge)]

/-! ## §2 Rules -/

/-- The JSON value of a ground. -/
def Ground.toJson (g : Ground) : Json := .object [
  ("restitution", .float g.restitution), ("friction", .float g.friction)]

/-- A ground from a JSON value. -/
def Ground.ofJson? (v : Json) : Option Ground := do
  let fs ← Json.fields? (plainNames ["restitution", "friction"]) v
  return ⟨← required? fs "restitution" number?, ← required? fs "friction" number?⟩

namespace Rule

/-- The JSON values of the numbers of a rule. -/
def numbers : Rule → List (String × Json)
  | mixedKinematics g ground incline =>
    [("gravity", .float g), ("ground", ground.toJson), ("incline", .ofOption .float incline)]
  | oscillation g stiffness damping =>
    [("gravity", .float g), ("stiffness", .float stiffness), ("damping", .float damping)]
  | wave g amplitude omega wavenumber =>
    [("gravity", .float g), ("amplitude", .float amplitude), ("omega", .float omega),
      ("wavenumber", .float wavenumber)]
  | electromagnetic g electric magnetic =>
    [("gravity", .float g), ("e_field", .float electric), ("b_field", .float magnetic)]
  | thermal g ground ambient coolingRate =>
    [("gravity", .float g), ("ground", ground.toJson), ("ambient", .float ambient),
      ("cooling_rate", .float coolingRate)]
  | fluid g ground density displacedVolume drag =>
    [("gravity", .float g), ("ground", ground.toJson), ("density", .float density),
      ("displaced_volume", .float displacedVolume), ("drag", .float drag)]
  | quantum => []
  | relativistic g force lightSpeed =>
    [("gravity", .float g), ("force", .float force), ("light_speed", .float lightSpeed)]
  | generic g ground => [("gravity", .float g), ("ground", ground.toJson)]

/-- The JSON value of a rule. -/
def toJson (r : Rule) : Json := .object (("rule", .ofKind r.character) :: r.numbers)

/-- The names of the numbers of the rules of a character, in the order in which they are given by
position. -/
def numberNames : Character → List String
  | .mixedKinematics => ["gravity", "ground", "incline"]
  | .oscillation => ["gravity", "stiffness", "damping"]
  | .wave => ["gravity", "amplitude", "omega", "wavenumber"]
  | .electromagnetic => ["gravity", "e_field", "b_field"]
  | .thermal => ["gravity", "ground", "ambient", "cooling_rate"]
  | .fluid => ["gravity", "ground", "density", "displaced_volume", "drag"]
  | .quantum => []
  | .relativistic => ["gravity", "force", "light_speed"]
  | .generic => ["gravity", "ground"]

/-- The character of a rule and its numbers: the members of an object, or the items of an array, of
which the first is the character and the others are all of the numbers. -/
def fields? : Json → Option (Character × Fields Json)
  | .object members => (required? members "rule" character?).map fun c => (c, members)
  | .array (first :: items) => do
    let c ← character? first
    let names := numberNames c
    if items.length = names.length then some (c, names.zip items) else none
  | _ => none
where
  /-- A character that is named by its label. -/
  character? (v : Json) : Option Character := (text? v).bind (ofLabel? Character)

/-- A rule from a JSON value. -/
def ofJson? (v : Json) : Option Rule := do
  let (character, fs) ← fields? v
  let number (name : String) : Option Float := required? fs name number?
  let ground := required? fs "ground" Ground.ofJson?
  match character with
  | .mixedKinematics =>
    return mixedKinematics (← number "gravity") (← ground) (← optional? fs "incline" number?)
  | .oscillation =>
    return oscillation (← number "gravity") (← number "stiffness") (← number "damping")
  | .wave =>
    return wave (← number "gravity") (← number "amplitude") (← number "omega")
      (← number "wavenumber")
  | .electromagnetic =>
    return electromagnetic (← number "gravity") (← number "e_field") (← number "b_field")
  | .thermal =>
    return thermal (← number "gravity") (← ground) (← number "ambient") (← number "cooling_rate")
  | .fluid =>
    return fluid (← number "gravity") (← ground) (← number "density")
      (← number "displaced_volume") (← number "drag")
  | .quantum => return quantum
  | .relativistic =>
    return relativistic (← number "gravity") (← number "force") (← number "light_speed")
  | .generic => return generic (← number "gravity") (← ground)

end Rule

/-! ## §3 Runs -/

/-- The JSON value of an event. -/
def Event.toJson (e : Event) : Json := .object [
  ("time", .float e.time), ("entity", .text e.body), ("kind", .ofKind e.kind)]

/-- The JSON value of a log entry. -/
def LogEntry.toJson (e : LogEntry) : Json := .object [
  ("time", .float e.time), ("step", .float e.step), ("total_energy", .float e.energy)]

/-- The JSON value of the figures of a run. -/
def RunStatistics.toJson (s : RunStatistics) : Json := .object [
  ("accepted_steps", .ofNat s.acceptedSteps),
  ("failed_steps", .ofNat s.failedSteps),
  ("success_ratio", .float s.successRatio),
  ("min_step", .float s.minStep),
  ("max_step", .float s.maxStep),
  ("final_time", .float s.finalTime),
  ("solver", .ofKind s.solver)]

/-- The JSON value of a run. -/
def Run.toJson (r : Run) : Json := .object [
  ("status", .ofKind r.status),
  ("character", .ofKind r.character),
  ("series", .object [("samples", .ofList Sample.toJson r.series)]),
  ("stats", r.statistics.toJson),
  ("events", .ofList Event.toJson r.events),
  ("monitor", .ofList LogEntry.toJson r.log),
  ("messages", .ofTexts r.messages)]

end PhysicsLab
