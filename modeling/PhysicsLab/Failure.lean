import PhysicsLab.Settings

/-!
# Failures

The ways in which reading a document, checking settings or running a simulation can fail.  What is
merely wrong with a problem or a result is not a failure: it is listed in a report.
-/

namespace PhysicsLab

open PhysicsLab.Number

/-- A failure, with what is known about its cause. -/
inductive Failure where
  /-- A document is not JSON, or not of the expected shape. -/
  | json
  /-- A document is not YAML, or not of the expected shape. -/
  | yaml
  /-- A file cannot be read. -/
  | file
  /-- Fields are out of their ranges. -/
  | fields (faults : List FieldFault)
  /-- Settings do not go together. -/
  | settings (cause : Inconsistency)
  /-- Validation found errors that block a run. -/
  | blocked (errors : List String)
  /-- Halving the step went below its floor. -/
  | stepCollapse (time step : Float)
  /-- The limit of attempted steps was reached. -/
  | iterationCap (limit : Nat)
  /-- The run was cancelled between two steps. -/
  | cancelled (time : Float)
  /-- A sample does not follow the last one in time. -/
  | notLater (previous next : Float)
  deriving DecidableEq

namespace Failure

/-- The text of a failure; of an unreadable document, only what it was to be. -/
def message : Failure → String
  | json => "JSON parsing error"
  | yaml => "YAML parsing error"
  | file => "I/O error"
  | fields faults => "Validation error: " ++ String.intercalate ", " (faults.map FieldFault.text)
  | settings cause => "Configuration error: " ++ cause.text
  | blocked errors => "IR validation blocked the run: " ++ String.intercalate "; " errors
  | stepCollapse time step =>
    "step collapse at t=" ++ writeFixed 6 time ++ "s: step " ++ writeScientific 3 step ++
      "s is below the minimum time step"
  | iterationCap limit =>
    "iteration cap of " ++ writeNat limit ++ " reached before the end of the run"
  | cancelled time => "run cancelled at t=" ++ writeFixed 6 time ++ "s"
  | notLater previous next =>
    "sample at t=" ++ writeFixed 9 next ++ "s does not follow t=" ++ writeFixed 9 previous ++ "s"

/-- Whether the failure ended a simulation that could not go on. -/
def endsStepping : Failure → Bool
  | stepCollapse .. => true
  | iterationCap .. => true
  | _ => false

end Failure

/-- Accepts settings that a simulation can be run with. -/
def SimulationSettings.check (s : SimulationSettings) : Except Failure Unit :=
  if s.rangeFaults.isEmpty then
    match s.inconsistency? with
    | some cause => .error (.settings cause)
    | none => .ok ()
  else .error (.fields s.rangeFaults)

/-- Accepts the settings of a run. -/
def RunSettings.check (s : RunSettings) : Except Failure Unit :=
  if s.rangeFaults.isEmpty then
    match s.simulation.inconsistency? with
    | some cause => .error (.settings cause)
    | none => .ok ()
  else .error (.fields s.rangeFaults)

end PhysicsLab
