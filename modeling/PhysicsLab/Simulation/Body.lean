import PhysicsLab.Model
import PhysicsLab.Number.Arithmetic

/-!
# Bodies in motion

The state of a body during a simulation.  A simulation starts from the bodies of a model; what is
not finite there starts from zero, and what has no positive mass gets one kilogram.
-/

namespace PhysicsLab

open PhysicsLab.Number

/-- The state of a body. -/
structure Body where
  id : String
  position : Vec3 := .zero
  velocity : Vec3 := .zero
  /-- The acceleration in the last step. -/
  acceleration : Vec3 := .zero
  mass : Float := 1.0
  charge : Float := 0.0
  temperature : Option Float := none
  deriving DecidableEq

namespace Body

/-- The vector, or the null vector if it is not finite. -/
def finiteOrZero (v : Vec3) : Vec3 := if v.isFinite then v else .zero

/-- The temperature that a model states for its bodies, if it is about heat. -/
def statedTemperature? (m : Model) : Option Float :=
  if m.hasDomain .thermal then m.firstValue? ["T0", "T_body", "T"] else none

/-- The state from which a body of a model starts. -/
def ofEntity (m : Model) (e : Entity) : Body :=
  { id := e.id
    position := finiteOrZero e.position
    velocity := finiteOrZero e.velocity
    acceleration := finiteOrZero e.acceleration
    mass := if e.mass.isFinite && e.mass > 0.0 then e.mass else 1.0
    charge := ((e.property? "charge").or (m.value? "q")).getD 0.0
    temperature := (e.property? "temperature").or (statedTemperature? m) }

/-- The linear momentum. -/
def momentum (b : Body) : Vec3 := b.velocity.scale b.mass

/-- The angular momentum about the origin. -/
def angularMomentum (b : Body) : Vec3 := b.position.cross b.momentum

/-- Whether position, velocity, acceleration, mass and temperature are finite. -/
def isFinite (b : Body) : Bool :=
  b.position.isFinite && b.velocity.isFinite && b.acceleration.isFinite && b.mass.isFinite &&
    b.temperature.all Float.isFinite

end Body

/-- The sum of the changes of velocity from one state of some bodies to another. -/
def velocityChange (before after : List Body) : Float :=
  sum (List.zipWith (fun a b => (b.velocity - a.velocity).norm) before after)

end PhysicsLab
