import PhysicsLab.Number.Arithmetic
import PhysicsLab.Number.Decimal
import PhysicsLab.Settings
import PhysicsLab.Simulation.Sample

/-!
# Quality of data

How good the samples of a run are as data, whatever they are about: whether bodies are missing or
numbers are not finite, whether bodies move as far as their speed allows, whether their acceleration
is smooth, and how many of their speeds are outliers.

A body is followed from one sample to the next by its id.

## Main definitions

* `displacementBound` — how far a body may move
* `continuity`, `consistency`, `outliers`, `noise`
* `Quality`, `assess`
-/

namespace PhysicsLab.Verification

open PhysicsLab.Number

/-! ## §1 Neighbouring samples -/

/-- The pairs of neighbours in a list. -/
def neighbours {α : Type} (xs : List α) : List (α × α) := xs.zip xs.tail

/-- The triples of neighbours in a list. -/
def triples {α : Type} (xs : List α) : List (α × α × α) := xs.zip (neighbours xs.tail)

/-- The bodies of a sample with what has become of them in another. -/
def matched (s u : Sample) : List (Body × Body) :=
  s.bodies.filterMap fun b => (u.body? b.id).map fun c => (b, c)

/-- How far a body has moved. -/
def displacement (b c : Body) : Float := (c.position - b.position).norm

/-- How far a body may move in a time: a multiple of what its speed allows, and a little more. -/
def displacementBound (factor dt : Float) (b c : Body) : Float :=
  factor * larger b.velocity.norm c.velocity.norm * dt + 1e-9

/-! ## §2 Figures -/

/-- The bodies of the first sample that are missing from a later one. -/
def missingBodies (samples : List Sample) : Nat :=
  match samples with
  | [] => 0
  | first :: _ =>
    (samples.flatMap fun s => first.bodies.filter fun b => (s.body? b.id).isNone).length

/-- The positions, velocities and energies that are not finite. -/
def nonFiniteValues (samples : List Sample) : Nat :=
  (samples.flatMap fun s => s.energy.total.isFinite ::
    s.bodies.flatMap fun b => [b.position.isFinite, b.velocity.isFinite]).count false

/-- The part of the moves that stay within the bound. -/
def continuity (factor : Float) (samples : List Sample) : Float :=
  let moves := (neighbours samples).flatMap fun (s, u) =>
    (matched s u).map fun (b, c) =>
      decide (displacement b c ≤ displacementBound factor (u.time - s.time) b c)
  ratio (moves.count true) moves.length

/-- The rate of change of the velocity of a body. -/
def accelerationOver (dt : Float) (b c : Body) : Vec3 := (c.velocity - b.velocity).scale (1.0 / dt)

/-- Whether the acceleration of a body hardly changes over three samples. -/
def isSmooth (t : Thresholds) (dt dt' : Float) (b c d : Body) : Bool :=
  let a := accelerationOver dt b c
  let a' := accelerationOver dt' c d
  (a' - a).norm ≤ larger (t.smoothnessTolerance * larger a.norm a'.norm) t.smoothnessFloor

/-- The part of the triples over which the acceleration of a body hardly changes. -/
def consistency (t : Thresholds) (samples : List Sample) : Float :=
  let marks := (triples samples).flatMap fun (s, u, w) =>
    let dt := u.time - s.time
    let dt' := w.time - u.time
    -- Samples that are not in order say nothing about the acceleration.
    if dt ≤ 0.0 || dt' ≤ 0.0 then []
    else s.bodies.filterMap fun b =>
      match u.body? b.id, w.body? b.id with
      | some c, some d => some (isSmooth t dt dt' b c d)
      | _, _ => none
  ratio (marks.count true) marks.length

/-- The finite speeds of a body in the samples. -/
def speedsOf (samples : List Sample) (id : String) : List Float :=
  ((samples.filterMap fun s => s.body? id).map fun b => b.velocity.norm).filter Float.isFinite

/-- The numbers that lie more than some standard deviations from the mean; none of fewer than three,
or of numbers that are all equal. -/
def outliersAmong (sigma : Float) (xs : List Float) : List Float :=
  if xs.length < 3 then []
  else
    let n := Float.ofNat xs.length
    let mean := sum xs / n
    let deviation := (sum (xs.map fun x => (x - mean) * (x - mean)) / n).sqrt
    -- Among equal numbers rounding alone would decide what lies far out.
    if deviation ≤ epsilon then []
    else xs.filter fun x => (x - mean).abs > sigma * deviation

/-- The number of speeds that are outliers for their body, and the number of speeds. -/
def outliers (sigma : Float) (samples : List Sample) : Nat × Nat :=
  match samples with
  | [] => (0, 0)
  | first :: _ =>
    let speeds := first.bodies.map fun b => speedsOf samples b.id
    ((speeds.flatMap (outliersAmong sigma)).length, speeds.flatten.length)

/-- The mean change of velocity from one sample to the next. -/
def noise (samples : List Sample) : Float :=
  let changes := ((neighbours samples).flatMap fun (s, u) =>
    (matched s u).map fun (b, c) => (c.velocity - b.velocity).norm).filter Float.isFinite
  if changes.isEmpty then 0.0 else sum changes / Float.ofNat changes.length

/-! ## §3 Assessment -/

/-- The quality of some samples. -/
structure Quality where
  missing : Nat := 0
  nonFinite : Nat := 0
  continuity : Float := 0.0
  consistency : Float := 0.0
  outlierRatio : Float := 0.0
  noise : Float := 0.0
  score : Float := 0.0
  recommendations : List String
  deriving DecidableEq

/-- A recommendation, where the condition for it holds. -/
def adviseIf (condition : Bool) (text : String) : List String := if condition then [text] else []

/-- What could be done about some figures. -/
def recommendationsFor (missing nonFinite : Nat) (continuity consistency outlierRatio : Float) :
    List String :=
  adviseIf (0 < missing)
    (writeNat missing ++ " entity records missing; check entity ids are stable") ++
  adviseIf (0 < nonFinite)
    (writeNat nonFinite ++
      " non-finite values; reduce the time step or check initial conditions") ++
  adviseIf (continuity < 0.95)
    "Samples jump further than velocity allows; reduce the output stride" ++
  adviseIf (consistency < 0.9)
    "Acceleration is not smooth between samples; reduce the time step" ++
  adviseIf (outlierRatio > 0.05)
    (writeFixed 1 (outlierRatio * 100.0) ++
      "% of speed values are outliers; inspect collisions and constraints")

/-- The part of the expected values that are there and finite.  Two vectors are expected of every
body and one energy of every sample. -/
def completeness (first : Sample) (count missing nonFinite : Nat) : Float :=
  let expected := count * (2 * first.bodies.length + 1)
  clamp 0.0 1.0 (1.0 - Float.ofNat (2 * missing + nonFinite) / Float.ofNat expected)

/-- The quality of some samples. -/
def assess (t : Thresholds) (samples : List Sample) : Quality :=
  match samples with
  | [] => { recommendations := ["No samples recorded; nothing to assess"] }
  | first :: _ =>
    let missing := missingBodies samples
    let nonFinite := nonFiniteValues samples
    let smooth := consistency t samples
    let steady := continuity t.causalityFactor samples
    let (flagged, speeds) := outliers t.outlierSigma samples
    let outlierRatio := if speeds = 0 then 0.0 else Float.ofNat flagged / Float.ofNat speeds
    -- The weights add up to one.
    let score := 0.3 * steady + 0.3 * smooth + 0.2 * (1.0 - outlierRatio) +
      0.2 * completeness first samples.length missing nonFinite
    { missing, nonFinite
      continuity := steady
      consistency := smooth
      outlierRatio
      noise := noise samples
      score := clamp 0.0 1.0 score
      recommendations := recommendationsFor missing nonFinite steady smooth outlierRatio }

end PhysicsLab.Verification
