import PhysicsLab.Assembly
import PhysicsLab.Simulation.Encoding
import PhysicsLab.Validation
import PhysicsLab.Verification

/-!
# Experiments

An experiment takes a problem all the way: its model is assembled, validated, simulated, and the run
is verified.  A model with blocking errors is not simulated.

## Main definitions

* `Experiment`, with `fingerprint` and `succeeded`
* `Experiment.conduct`
-/

namespace PhysicsLab

/-- What has come of a problem. -/
structure Experiment where
  model : Model
  validation : Validation.Report
  run : Run
  verification : Verification.Report

namespace Experiment

/-- The digest of the recorded series. -/
def fingerprint (e : Experiment) : String := e.run.series.fingerprint

/-- Whether the run was completed and stood up to verification. -/
def succeeded (e : Experiment) : Bool := e.run.isCompleted && e.verification.success

/-- The experiment of a problem with some knowledge and settings. -/
def conduct (l : Library) (settings : RunSettings) (p : Problem)
    (cancelAfter : Option Nat := none) : Except Failure Experiment :=
  let model := p.toModel l settings
  let validation := Validation.validate model
  if validation.canRun then do
    let s ← Simulation.prepare model model.simulationSettings
    let run ← s.run cancelAfter
    let verification := Verification.verify settings.thresholds model.conservationLaws run
    return { model, validation, run, verification }
  else .error (.blocked validation.blockingErrors)

end Experiment

end PhysicsLab
