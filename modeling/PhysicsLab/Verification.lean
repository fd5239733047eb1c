import PhysicsLab.Simulation.Run
import PhysicsLab.Verification.Conservation
import PhysicsLab.Verification.Quality

/-!
# Verification of runs

A finished run is judged by the laws that the model declares, by physical limits, by the stability
of its steps, and by whether bodies move as far as their speed allows.  The score is the part of the
laws that hold, diminished for each kind of issue by how many there are.

## Main definitions

* `Issue` — what is wrong with a run, and where
* `constraintViolations`, `stabilityIssues`, `causalityViolations`
* `Report`, `verify`
-/

namespace PhysicsLab.Verification

open PhysicsLab.Number

/-! ## §1 Issues -/

/-- The kinds of issues. -/
inductive IssueKind where
  | constraint
  | stability
  | causality
  deriving DecidableEq, Inhabited

instance : Labelled IssueKind where
  all := [.constraint, .stability, .causality]
  label
    | .constraint => "constraint"
    | .stability => "stability"
    | .causality => "causality"

/-- What is wrong with a run. -/
inductive IssueCause where
  | nonFinitePosition
  | tooFast (speed limit : Float)
  | unevenSteps (ratio limit : Float)
  | diverged
  | notLater (previous next : Float)
  | movedTooFar (moved bound : Float)
  deriving DecidableEq

namespace IssueCause

/-- The kind of an issue. -/
def kind : IssueCause → IssueKind
  | nonFinitePosition => .constraint
  | tooFast .. => .constraint
  | unevenSteps .. => .stability
  | diverged => .stability
  | notLater .. => .causality
  | movedTooFar .. => .causality

/-- The text of an issue. -/
def message : IssueCause → String
  | nonFinitePosition => "position is not finite"
  | tooFast speed limit =>
    "speed " ++ writeScientific 3 speed ++ " m/s exceeds ceiling " ++ writeScientific 3 limit ++
      " m/s"
  | unevenSteps ratio limit =>
    "step ratio " ++ writeFixed 1 ratio ++ " exceeds " ++ writeFixed 1 limit ++
      "; the step controller is oscillating"
  | diverged => "state diverged"
  | notLater previous next =>
    "timestamp " ++ writeFloat next ++ " does not follow " ++ writeFloat previous
  | movedTooFar moved bound =>
    "moved " ++ writeScientific 3 moved ++ " m, bound " ++ writeScientific 3 bound ++ " m"

end IssueCause

/-- Something wrong with a run; where it concerns one body, the time and the body. -/
structure Issue where
  cause : IssueCause
  site : Option (Float × String) := none
  deriving DecidableEq

/-! ## §2 Judgements -/

/-- The bodies whose position is not finite, or that are too fast. -/
def constraintViolations (t : Thresholds) (samples : List Sample) : List Issue :=
  samples.flatMap fun s => s.bodies.filterMap fun b =>
    if !b.position.isFinite then some ⟨.nonFinitePosition, some (s.time, b.id)⟩
    else if b.velocity.norm > t.maxSpeed then
      some ⟨.tooFast b.velocity.norm t.maxSpeed, some (s.time, b.id)⟩
    else none

/-- The issue with the steps of a run, if they differ too much. -/
def stepIssue? (t : Thresholds) (run : Run) : Option Issue :=
  let ratio := run.statistics.stepRatio
  if ratio > t.maxStepRatio then some ⟨.unevenSteps ratio t.maxStepRatio, none⟩ else none

/-- The bodies in a state that is not finite. -/
def divergences (samples : List Sample) : List Issue :=
  samples.flatMap fun s => (s.bodies.filter fun b => !b.isFinite).map fun b =>
    ⟨.diverged, some (s.time, b.id)⟩

/-- The issues with the stability of a run. -/
def stabilityIssues (t : Thresholds) (run : Run) : List Issue :=
  (stepIssue? t run).toList ++ divergences run.series

/-- The bodies that have moved too far from one sample to another. -/
def farMoves (factor : Float) (s u : Sample) : List Issue :=
  s.bodies.filterMap fun b =>
    match u.body? b.id with
    | none => none
    | some c =>
      let moved := displacement b c
      let bound := displacementBound factor (u.time - s.time) b c
      if moved > bound then some ⟨.movedTooFar moved bound, some (u.time, b.id)⟩ else none

/-- Samples that are not later than the ones before them, and bodies that have moved too far. -/
def causalityViolations (factor : Float) : List Sample → List Issue
  | s :: u :: rest =>
    -- Between samples out of order no bound can be computed.
    (if u.time - s.time ≤ 0.0 then [⟨.notLater s.time u.time, none⟩] else farMoves factor s u) ++
      causalityViolations factor (u :: rest)
  | _ => []

/-- Whether an issue is about a sample that is not later. -/
def Issue.isDisorder (i : Issue) : Bool :=
  match i.cause with
  | .notLater .. => true
  | _ => false

/-! ## §3 Reports -/

/-- The verification of a run. -/
structure Report where
  checks : List (Check Float)
  constraintViolations : List Issue
  stabilityIssues : List Issue
  causalityViolations : List Issue
  /-- What makes the run a failure. -/
  errors : List String
  /-- What else was noticed. -/
  warnings : List String
  quality : Quality
  score : Float
  success : Bool
  deriving DecidableEq

/-- The part of the laws that hold. -/
def conservationRatio (checks : List (Check Float)) : Float :=
  ratio (checks.countP Check.passed) checks.length

/-- By what a score is multiplied for a number of issues. -/
def penalty (weight : Float) (count : Nat) : Float := 1.0 / (1.0 + weight * Float.ofNat count)

/-- The text about a law that does not hold. -/
def Check.warning (c : Check Float) : String :=
  labelOf c.kind ++ " not conserved: deviation " ++ writeFixed 4 c.deviation ++ " exceeds " ++
    writeFixed 4 c.tolerance

/-- What makes a run a failure. -/
def errorsOf (run : Run) (causality : List Issue) : List String :=
  (if run.isCompleted then []
    else ["run did not complete: " ++ String.intercalate "; " run.messages]) ++
  (if (divergences run.series).isEmpty then []
    else ["diverged: non-finite position or velocity"]) ++
  (if causality.any Issue.isDisorder then ["sample timestamps are not strictly increasing"] else [])

/-- What else is noticed about a run. -/
def warningsOf (t : Thresholds) (run : Run) (checks : List (Check Float))
    (causality : List Issue) : List String :=
  ((checks.filter fun c => !c.passed).map Check.warning) ++
  ((stepIssue? t run).toList.map fun i => i.cause.message) ++
  (if causality.isEmpty then []
    else [writeNat causality.length ++ " displacement(s) exceed the velocity-implied bound"])

/-- The verification of a run by the laws of a model. -/
def verify (t : Thresholds) (laws : List ConservationLaw) (run : Run) : Report :=
  let checks := checkLaws t laws run.series
  let constraints := constraintViolations t run.series
  let stability := stabilityIssues t run
  let causality := causalityViolations t.causalityFactor run.series
  let errors := errorsOf run causality
  let score := conservationRatio checks *
    penalty t.constraintPenalty constraints.length *
    penalty t.stabilityPenalty stability.length *
    penalty t.causalityPenalty causality.length
  { checks
    constraintViolations := constraints
    stabilityIssues := stability
    causalityViolations := causality
    errors
    warnings := warningsOf t run checks causality
    quality := assess t run.series
    score
    success := run.isCompleted && errors.isEmpty && score ≥ t.successScore }

end PhysicsLab.Verification
