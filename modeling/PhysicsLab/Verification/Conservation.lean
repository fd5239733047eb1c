import PhysicsLab.Conservation
import PhysicsLab.Settings
import PhysicsLab.Simulation.Sample

/-!
# Checks of conservation

A conservation law is checked between the first and the last sample of a run.  What counts is the
change of the quantity in relation to its size at the beginning; where that is zero, the change
itself.  Quantities without a direction are treated as vectors along the first axis.

The check is written for any numbers with the operations of `Arithmetic`, so that it can be read
over doubles, which is what runs, and over the reals.

## Main definitions

* `Arithmetic`, `Totals`
* `checkTotals` — the check of one quantity
* `checkLaws` — the checks of the laws of a model
-/

namespace PhysicsLab.Verification

/-! ## §1 Numbers -/

/-- The operations that a check of conservation needs. -/
class Arithmetic (α : Type) extends Add α, Sub α, Mul α, Div α where
  zero : α
  abs : α → α
  sqrt : α → α
  /-- Whether the first number is at most the second. -/
  atMost : α → α → Bool
  /-- Whether the first number is above the second. -/
  above : α → α → Bool
  /-- The magnitude up to which a quantity counts as zero. -/
  zeroScale : α

instance : Arithmetic Float where
  zero := 0.0
  abs := Float.abs
  sqrt := Float.sqrt
  atMost a b := a ≤ b
  above a b := a > b
  zeroScale := 1e-12

/-- A quantity with a direction. -/
structure Directed (α : Type) where
  x : α
  y : α
  z : α

namespace Directed

variable {α : Type} [Arithmetic α]

/-- A quantity without a direction. -/
def scalar (x : α) : Directed α := ⟨x, Arithmetic.zero, Arithmetic.zero⟩

/-- The change from one quantity to another. -/
def change (a b : Directed α) : Directed α := ⟨b.x - a.x, b.y - a.y, b.z - a.z⟩

/-- The magnitude. -/
def norm (a : Directed α) : α := Arithmetic.sqrt (a.x * a.x + a.y * a.y + a.z * a.z)

end Directed

/-! ## §2 Totals -/

/-- How much there is of each quantity. -/
structure Totals (α : Type) where
  energy : α
  momentum : Directed α
  angularMomentum : Directed α
  charge : α
  mass : α
  bodyCount : α

/-- A quantity among the totals. -/
def Totals.get {α : Type} [Arithmetic α] (t : Totals α) : Conserved → Directed α
  | .energy => .scalar t.energy
  | .momentum => t.momentum
  | .angularMomentum => t.angularMomentum
  | .charge => .scalar t.charge
  | .mass => .scalar t.mass
  | .bodyCount => .scalar t.bodyCount

/-- Whether a quantity has a direction. -/
def isDirected : Conserved → Bool
  | .momentum => true
  | .angularMomentum => true
  | _ => false

/-- A vector as a quantity with a direction. -/
def directed (v : Vec3) : Directed Float := ⟨v.x, v.y, v.z⟩

/-- The totals of a sample. -/
def totalsOf (s : Sample) : Totals Float :=
  { energy := s.energy.total
    momentum := directed s.momentum
    angularMomentum := directed s.angularMomentum
    charge := s.charge
    mass := s.mass
    bodyCount := Float.ofNat s.bodies.length }

/-! ## §3 Checks -/

/-- The outcome of checking one quantity. -/
structure Check (α : Type) where
  kind : Conserved
  initial : α
  final : α
  deviation : α
  tolerance : α
  passed : Bool
  deriving DecidableEq

section

variable {α : Type} [Arithmetic α]

/-- A change in relation to the initial value, or the change itself where that is zero. -/
def relativeDeviation (initial change : α) : α :=
  if Arithmetic.above (Arithmetic.abs initial) Arithmetic.zeroScale then
    Arithmetic.abs change / Arithmetic.abs initial
  else Arithmetic.abs change

/-- What is shown of a quantity: its magnitude, or itself if it has no direction. -/
def shown (kind : Conserved) (a : Directed α) : α := if isDirected kind then a.norm else a.x

/-- The check of a quantity between the first and the last totals. -/
def checkTotals (kind : Conserved) (tolerance : α) (first last : Totals α) : Check α :=
  let a := first.get kind
  let b := last.get kind
  let deviation := relativeDeviation a.norm (a.change b).norm
  { kind
    initial := shown kind a
    final := shown kind b
    deviation
    tolerance
    passed := Arithmetic.atMost deviation tolerance }

end

/-- The deviation that is allowed for a law. -/
def toleranceOf (t : Thresholds) (law : ConservationLaw) : Float :=
  match law.kind with
  | .energy => t.energyTolerance
  | .momentum => t.momentumTolerance
  | .angularMomentum => t.angularMomentumTolerance
  | .mass => t.massTolerance
  | .charge => law.tolerance
  | .bodyCount => law.tolerance

/-- The check of a law between two samples. -/
def checkLaw (t : Thresholds) (law : ConservationLaw) (first last : Sample) : Check Float :=
  checkTotals law.kind (toleranceOf t law) (totalsOf first) (totalsOf last)

/-- The checks of some laws over a series, one for each quantity; none over an empty series. -/
def checkLaws (t : Thresholds) (laws : List ConservationLaw) (samples : List Sample) :
    List (Check Float) :=
  match samples.head?, samples.getLast? with
  | some first, some last => (onePerKind laws).map fun law => checkLaw t law first last
  | _, _ => []

end PhysicsLab.Verification
