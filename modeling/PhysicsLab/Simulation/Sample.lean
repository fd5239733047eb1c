import PhysicsLab.Simulation.Body

/-!
# Samples

A sample is one recorded instant: the bodies, their energy, and their totals.  Totals are summed up
in the order of the bodies, or they are stated instead.

Which of the two it was makes a difference to the bytes of a sample and to nothing else.  There a
NaN is written with its sign bit, which is set if it arose from a sum and clear if it was given, but
a `Float` has only one NaN and cannot tell.  So a sample keeps in mind which totals were stated;
`Sample.of`, and with it every run, states none.
-/

namespace PhysicsLab

open PhysicsLab.Number

/-- The energy of some bodies. -/
structure Energy where
  kinetic : Float := 0.0
  potential : Float := 0.0
  total : Float := 0.0
  deriving DecidableEq, Inhabited

/-- The energy with two parts. -/
def Energy.of (kinetic potential : Float) : Energy := ⟨kinetic, potential, kinetic + potential⟩

/-- What a sample says about its bodies taken together.  A total is named where it matters whether
it was stated. -/
inductive Total where
  | energy
  | momentum
  | angularMomentum
  | mass
  | charge
  deriving DecidableEq, Inhabited

/-- A recorded instant. -/
structure Sample where
  /-- In seconds. -/
  time : Float
  bodies : List Body
  energy : Energy
  momentum : Vec3
  /-- About the origin. -/
  angularMomentum : Vec3
  centerOfMass : Vec3
  mass : Float
  charge : Float
  /-- The totals that were stated, and not computed from the bodies; only the sign bit of a NaN
  among them depends on it. -/
  stated : List Total := []
  deriving DecidableEq

namespace Sample

/-- The sum of vectors. -/
def total (vs : List Vec3) : Vec3 := vs.foldl (· + ·) .zero

/-- The sum of a quantity over some bodies, starting from zero. -/
def totalOf (f : Body → Float) (bodies : List Body) : Float :=
  bodies.foldl (fun sum b => sum + f b) 0.0

/-- The sample of some bodies at a time. -/
def of (time : Float) (bodies : List Body) (energy : Energy) : Sample :=
  let mass := totalOf Body.mass bodies
  { time, bodies, energy
    momentum := total (bodies.map Body.momentum)
    angularMomentum := total (bodies.map Body.angularMomentum)
    centerOfMass :=
      -- Bodies without mass have no centre; the origin stands in for it.
      if mass > 0.0 then (total (bodies.map fun b => b.position.scale b.mass)).scale (1.0 / mass)
      else .zero
    mass
    charge := totalOf Body.charge bodies }

/-- Whether a total was stated. -/
def isStated (s : Sample) (t : Total) : Bool := s.stated.contains t

/-- The first body with an id. -/
def body? (s : Sample) (id : String) : Option Body := s.bodies.find? fun b => b.id == id

end Sample

end PhysicsLab
