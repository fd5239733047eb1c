import PhysicsLab.Fields
import PhysicsLab.Settings

/-!
# Settings in documents

The names of the settings in documents, and their reading and writing.  Every setting has a default,
so an empty document is complete.
-/

namespace PhysicsLab

open Fields Scalars

/-! ## Names -/

/-- The names of fields without other names. -/
def plainNames (names : List String) : Fields.Names := names.map fun name => (name, [])

/-- The fields of the simulation settings. -/
def SimulationSettings.names : Fields.Names := plainNames [
  "duration", "time_step", "solver", "tolerance", "output_stride", "adaptive_stepping",
  "min_time_step", "max_time_step", "max_iterations", "shrink_factor", "growth_factor",
  "min_success_ratio"]

/-- The fields of the output settings. -/
def OutputSettings.names : Fields.Names :=
  plainNames ["format", "frame_rate", "include_energy", "include_events"]

/-- The fields of the thresholds. -/
def Thresholds.names : Fields.Names := plainNames [
  "energy_tolerance", "momentum_tolerance", "angular_momentum_tolerance", "mass_tolerance",
  "max_speed", "max_step_ratio", "causality_factor", "outlier_sigma", "smoothness_tolerance",
  "smoothness_floor", "success_score", "constraint_penalty", "stability_penalty",
  "causality_penalty"]

/-! ## Reading -/

section

variable {σ : Type} [Scalars σ]

/-- Simulation settings, given fields replacing those of `base`. -/
def SimulationSettings.ofFields? (base : SimulationSettings) (fs : Fields σ) :
    Option SimulationSettings := do
  return {
    duration := ← orElse? fs "duration" number? base.duration
    timeStep := ← orElse? fs "time_step" number? base.timeStep
    solver := ← orElse? fs "solver" (readKind? Solver) base.solver
    tolerance := ← orElse? fs "tolerance" number? base.tolerance
    outputStride := ← orElse? fs "output_stride" (count? Number.countLimit) base.outputStride
    adaptive := ← orElse? fs "adaptive_stepping" bool? base.adaptive
    minTimeStep := ← orElse? fs "min_time_step" number? base.minTimeStep
    maxTimeStep := ← orElse? fs "max_time_step" number? base.maxTimeStep
    maxIterations := ← orElse? fs "max_iterations" (count? Number.countLimit) base.maxIterations
    shrinkFactor := ← orElse? fs "shrink_factor" number? base.shrinkFactor
    growthFactor := ← orElse? fs "growth_factor" number? base.growthFactor
    minSuccessRatio := ← orElse? fs "min_success_ratio" number? base.minSuccessRatio }

/-- Output settings from their fields. -/
def OutputSettings.ofFields? (fs : Fields σ) : Option OutputSettings := do
  let base : OutputSettings := {}
  return {
    format := ← orElse? fs "format" (readKind? OutputFormat) base.format
    frameRate := ← orElse? fs "frame_rate" number? base.frameRate
    includeEnergy := ← orElse? fs "include_energy" bool? base.includeEnergy
    includeEvents := ← orElse? fs "include_events" bool? base.includeEvents }

/-- Thresholds from their fields. -/
def Thresholds.ofFields? (fs : Fields σ) : Option Thresholds := do
  let base : Thresholds := {}
  return {
    energyTolerance := ← orElse? fs "energy_tolerance" number? base.energyTolerance
    momentumTolerance := ← orElse? fs "momentum_tolerance" number? base.momentumTolerance
    angularMomentumTolerance :=
      ← orElse? fs "angular_momentum_tolerance" number? base.angularMomentumTolerance
    massTolerance := ← orElse? fs "mass_tolerance" number? base.massTolerance
    maxSpeed := ← orElse? fs "max_speed" number? base.maxSpeed
    maxStepRatio := ← orElse? fs "max_step_ratio" number? base.maxStepRatio
    causalityFactor := ← orElse? fs "causality_factor" number? base.causalityFactor
    outlierSigma := ← orElse? fs "outlier_sigma" number? base.outlierSigma
    smoothnessTolerance := ← orElse? fs "smoothness_tolerance" number? base.smoothnessTolerance
    smoothnessFloor := ← orElse? fs "smoothness_floor" number? base.smoothnessFloor
    successScore := ← orElse? fs "success_score" number? base.successScore
    constraintPenalty := ← orElse? fs "constraint_penalty" number? base.constraintPenalty
    stabilityPenalty := ← orElse? fs "stability_penalty" number? base.stabilityPenalty
    causalityPenalty := ← orElse? fs "causality_penalty" number? base.causalityPenalty }

end

/-- Simulation settings from a JSON value. -/
def SimulationSettings.ofJson? (v : Json) : Option SimulationSettings :=
  (Json.fields? names v).bind (SimulationSettings.ofFields? {})

/-- Output settings from a JSON value. -/
def OutputSettings.ofJson? (v : Json) : Option OutputSettings :=
  (Json.fields? names v).bind OutputSettings.ofFields?

/-! ## Writing -/

/-- The JSON value of simulation settings. -/
def SimulationSettings.toJson (s : SimulationSettings) : Json := .object [
  ("duration", .float s.duration),
  ("time_step", .float s.timeStep),
  ("solver", .ofKind s.solver),
  ("tolerance", .float s.tolerance),
  ("output_stride", .ofNat s.outputStride),
  ("adaptive_stepping", .bool s.adaptive),
  ("min_time_step", .float s.minTimeStep),
  ("max_time_step", .float s.maxTimeStep),
  ("max_iterations", .ofNat s.maxIterations),
  ("shrink_factor", .float s.shrinkFactor),
  ("growth_factor", .float s.growthFactor),
  ("min_success_ratio", .float s.minSuccessRatio)]

/-- The JSON value of output settings. -/
def OutputSettings.toJson (s : OutputSettings) : Json := .object [
  ("format", .ofKind s.format),
  ("frame_rate", .float s.frameRate),
  ("include_energy", .bool s.includeEnergy),
  ("include_events", .bool s.includeEvents)]

/-- The JSON value of thresholds. -/
def Thresholds.toJson (t : Thresholds) : Json := .object [
  ("energy_tolerance", .float t.energyTolerance),
  ("momentum_tolerance", .float t.momentumTolerance),
  ("angular_momentum_tolerance", .float t.angularMomentumTolerance),
  ("mass_tolerance", .float t.massTolerance),
  ("max_speed", .float t.maxSpeed),
  ("max_step_ratio", .float t.maxStepRatio),
  ("causality_factor", .float t.causalityFactor),
  ("outlier_sigma", .float t.outlierSigma),
  ("smoothness_tolerance", .float t.smoothnessTolerance),
  ("smoothness_floor", .float t.smoothnessFloor),
  ("success_score", .float t.successScore),
  ("constraint_penalty", .float t.constraintPenalty),
  ("stability_penalty", .float t.stabilityPenalty),
  ("causality_penalty", .float t.causalityPenalty)]

/-- The JSON value of all settings of a run. -/
def RunSettings.toJson (s : RunSettings) : Json := .object [
  ("schema_version", .text s.schemaVersion),
  ("simulation", s.simulation.toJson),
  ("output", s.output.toJson),
  ("thresholds", s.thresholds.toJson)]

end PhysicsLab
