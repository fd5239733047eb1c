import PhysicsLab.Label
import PhysicsLab.Number.Decimal
import PhysicsLab.Units.Conversion

/-!
# Settings of a run

Three groups of settings: how a simulation is stepped, how its result is written, and by which
thresholds it is judged.  Two kinds of faults are told apart.  A field out of its range is found by
looking at the field alone, and all such faults are reported together; an inconsistency concerns
several fields, and the first one found is reported.

A range check rejects what is below or above an end.  So NaN passes every range check; the
consistency check refuses it for the duration and the time step.

## Main definitions

* `SimulationSettings`, `OutputSettings`, `Thresholds`, `RunSettings`
* `rangeFaults` of each — the fields out of range
* `SimulationSettings.inconsistency?` — the first inconsistency
-/

namespace PhysicsLab

open PhysicsLab.Number

/-! ## §1 Kinds -/

/-- The scheme that a simulation is labelled with. -/
inductive Solver where
  | semiImplicitEuler
  | euler
  | verlet
  deriving DecidableEq, Inhabited

instance : Labelled Solver where
  all := [.semiImplicitEuler, .euler, .verlet]
  label
    | .semiImplicitEuler => "semi-implicit-euler"
    | .euler => "euler"
    | .verlet => "verlet"

/-- The format that results are written in. -/
inductive OutputFormat where
  | json
  | yaml
  | binary
  deriving DecidableEq, Inhabited

instance : Labelled OutputFormat where
  all := [.json, .yaml, .binary]
  label
    | .json => "json"
    | .yaml => "yaml"
    | .binary => "bincode"

/-! ## §2 Settings -/

/-- How a simulation is stepped. -/
structure SimulationSettings where
  /-- Simulated seconds. -/
  duration : Float := 10.0
  /-- First step in seconds. -/
  timeStep : Float := 0.001
  solver : Solver := .semiImplicitEuler
  /-- Change of velocity that a step should have. -/
  tolerance : Float := 0.01
  /-- Accepted steps from one sample to the next. -/
  outputStride : Nat := 10
  /-- Whether the step follows the tolerance. -/
  adaptive : Bool := true
  minTimeStep : Float := 1e-5
  maxTimeStep : Float := 0.01
  /-- Attempted steps after which a run is given up. -/
  maxIterations : Nat := 10000000
  shrinkFactor : Float := 0.8
  growthFactor : Float := 1.2
  /-- Part of the attempted steps that has to succeed. -/
  minSuccessRatio : Float := 0.8
  deriving DecidableEq, Inhabited

/-- How results are written. -/
structure OutputSettings where
  format : OutputFormat := .json
  frameRate : Float := 30.0
  includeEnergy : Bool := true
  includeEvents : Bool := true
  deriving DecidableEq, Inhabited

/-- By what a result is judged. -/
structure Thresholds where
  energyTolerance : Float := 0.01
  momentumTolerance : Float := 0.01
  angularMomentumTolerance : Float := 0.01
  massTolerance : Float := 0.001
  maxSpeed : Float := Units.speedOfLight
  maxStepRatio : Float := 10.0
  /-- How much further than its speed allows a body may move. -/
  causalityFactor : Float := 2.0
  /-- Standard deviations beyond which a speed is an outlier. -/
  outlierSigma : Float := 3.0
  /-- Relative change of the acceleration that is still smooth. -/
  smoothnessTolerance : Float := 0.5
  /-- Change of the acceleration that is smooth in any case. -/
  smoothnessFloor : Float := 1.0
  /-- Score that a success needs. -/
  successScore : Float := 0.8
  constraintPenalty : Float := 0.1
  stabilityPenalty : Float := 0.05
  causalityPenalty : Float := 0.1
  deriving DecidableEq, Inhabited

/-- All settings of a run. -/
structure RunSettings where
  schemaVersion : String := "1.0"
  simulation : SimulationSettings := {}
  output : OutputSettings := {}
  thresholds : Thresholds := {}
  deriving DecidableEq, Inhabited

/-! ## §3 Ranges -/

/-- A field out of range, or a text that is too short. -/
inductive FieldFault where
  | range (field : String)
  | length (field : String)
  deriving DecidableEq

namespace FieldFault

/-- A fault of a field, where the condition for it holds. -/
def rangeIf (field : String) (outside : Bool) : List FieldFault :=
  if outside then [.range field] else []

/-- A fault inside a group of fields. -/
def within (group : String) : FieldFault → FieldFault
  | range field => range (group ++ "." ++ field)
  | length field => length (group ++ "." ++ field)

/-- The text of a fault. -/
def text : FieldFault → String
  | range field => field ++ ": range"
  | length field => field ++ ": length"

end FieldFault

open FieldFault in
/-- The fields of a simulation that are out of range. -/
def SimulationSettings.rangeFaults (s : SimulationSettings) : List FieldFault :=
  rangeIf "duration" (s.duration < 1e-9) ++
  rangeIf "time_step" (s.timeStep < 1e-12 || s.timeStep > 10.0) ++
  rangeIf "tolerance" (s.tolerance < 1e-15) ++
  rangeIf "output_stride" (s.outputStride < 1) ++
  rangeIf "min_time_step" (s.minTimeStep < 1e-12) ++
  rangeIf "max_time_step" (s.maxTimeStep < 1e-12) ++
  rangeIf "max_iterations" (s.maxIterations < 1) ++
  rangeIf "shrink_factor" (s.shrinkFactor < 0.01 || s.shrinkFactor > 0.99) ++
  rangeIf "growth_factor" (s.growthFactor < 1.0 || s.growthFactor > 10.0) ++
  rangeIf "min_success_ratio" (s.minSuccessRatio < 0.0 || s.minSuccessRatio > 1.0)

open FieldFault in
/-- The fields of the output that are out of range. -/
def OutputSettings.rangeFaults (s : OutputSettings) : List FieldFault :=
  rangeIf "frame_rate" (s.frameRate < 1.0 || s.frameRate > 240.0)

open FieldFault in
/-- The thresholds that are out of range. -/
def Thresholds.rangeFaults (t : Thresholds) : List FieldFault :=
  rangeIf "energy_tolerance" (t.energyTolerance < 0.0) ++
  rangeIf "momentum_tolerance" (t.momentumTolerance < 0.0) ++
  rangeIf "angular_momentum_tolerance" (t.angularMomentumTolerance < 0.0) ++
  rangeIf "mass_tolerance" (t.massTolerance < 0.0) ++
  rangeIf "max_speed" (t.maxSpeed < 0.0) ++
  rangeIf "max_step_ratio" (t.maxStepRatio < 1.0) ++
  rangeIf "causality_factor" (t.causalityFactor < 1.0) ++
  rangeIf "outlier_sigma" (t.outlierSigma < 0.5) ++
  rangeIf "smoothness_tolerance" (t.smoothnessTolerance < 0.0) ++
  rangeIf "smoothness_floor" (t.smoothnessFloor < 0.0) ++
  rangeIf "success_score" (t.successScore < 0.0 || t.successScore > 1.0) ++
  rangeIf "constraint_penalty" (t.constraintPenalty < 0.0) ++
  rangeIf "stability_penalty" (t.stabilityPenalty < 0.0) ++
  rangeIf "causality_penalty" (t.causalityPenalty < 0.0)

/-- The fields of all settings that are out of range. -/
def RunSettings.rangeFaults (s : RunSettings) : List FieldFault :=
  (if s.schemaVersion.isEmpty then [.length "schema_version"] else []) ++
  s.simulation.rangeFaults.map (.within "simulation") ++
  s.output.rangeFaults.map (.within "output") ++
  s.thresholds.rangeFaults.map (.within "thresholds")

/-! ## §4 Consistency -/

/-- Settings that do not go together. -/
inductive Inconsistency where
  | notFinite
  | stepNotBelowDuration (step duration : Float)
  | boundsReversed (min max : Float)
  | stepOutsideBounds (step min max : Float)
  deriving DecidableEq

/-- The text of an inconsistency. -/
def Inconsistency.text : Inconsistency → String
  | notFinite => "duration and time step must be finite"
  | stepNotBelowDuration step duration =>
    "time step " ++ writeFloat step ++ " must be smaller than duration " ++ writeFloat duration
  | boundsReversed min max =>
    "min time step " ++ writeFloat min ++ " exceeds max time step " ++ writeFloat max
  | stepOutsideBounds step min max =>
    "time step " ++ writeFloat step ++ " outside adaptive bounds [" ++ writeFloat min ++ ", " ++
      writeFloat max ++ "]"

/-- The first inconsistency of the settings of a simulation. -/
def SimulationSettings.inconsistency? (s : SimulationSettings) : Option Inconsistency :=
  if !(s.duration.isFinite && s.timeStep.isFinite) then some .notFinite
  else if s.timeStep ≥ s.duration then some (.stepNotBelowDuration s.timeStep s.duration)
  else if s.minTimeStep > s.maxTimeStep then some (.boundsReversed s.minTimeStep s.maxTimeStep)
  else if s.adaptive && !(s.minTimeStep ≤ s.timeStep && s.timeStep ≤ s.maxTimeStep) then
    some (.stepOutsideBounds s.timeStep s.minTimeStep s.maxTimeStep)
  else none

/-- Whether a simulation can be run with the settings. -/
def SimulationSettings.accepted (s : SimulationSettings) : Bool :=
  s.rangeFaults.isEmpty && s.inconsistency?.isNone

end PhysicsLab
