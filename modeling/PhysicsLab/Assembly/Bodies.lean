import PhysicsLab.Model
import PhysicsLab.Problem

/-!
# Bodies of a problem

Every stated object becomes a body; what is not stated about it comes from the stated parameters or
from a default.  A problem without objects gets one body whose start is described by the stated
parameters.
-/

namespace PhysicsLab

open PhysicsLab.Text PhysicsLab.Number

/-- The symbols of the mass. -/
def massSymbols : List String := ["m", "M"]

/-- The mass that the parameters state, or one kilogram. -/
def statedMass (parameters : Table Parameter) : Float :=
  (firstValue? parameters massSymbols).getD 1.0

/-- The vector, or the null vector where none is stated. -/
def statedVector (v : Option StatedVector) : Vec3 :=
  match v with
  | some v => v.toVec3
  | none => .zero

/-- The body of an object; an object without an id gets one from its place. -/
def StatedObject.toBody (o : StatedObject) (place : Nat) (parameters : Table Parameter) : Entity :=
  { id := if isBlankText o.id then "entity_" ++ writeNat place else o.id
    kind := .ofText o.kind
    position := statedVector o.position
    velocity := statedVector o.velocity
    acceleration := statedVector o.acceleration
    mass := o.mass.getD (statedMass parameters)
    properties := o.properties
    constraints := o.constraints }

/-- A number as a property; one that is not finite is no value. -/
def propertyValue (x : Float) : Json := if x.isFinite then .float x else .null

/-- The properties of the default body with the symbols that state them. -/
def statedProperties : List (String × List String) := [
  ("charge", ["q", "Q"]), ("temperature", ["T0", "T_body"])]

/-- The velocity that a speed and, if it is stated, an angle of launch describe. -/
def launchVelocity (parameters : Table Parameter) : Vec3 :=
  let speed := (firstValue? parameters ["v0", "v_0", "u"]).getD 0.0
  match firstValue? parameters ["theta", "θ", "angle"] with
  | some angle => ⟨speed * angle.cos, speed * angle.sin, 0.0⟩
  | none => ⟨speed, 0.0, 0.0⟩

/-- The body of a problem without objects. -/
def defaultBody (parameters : Table Parameter) : Entity :=
  { id := "body"
    position := ⟨
      (firstValue? parameters ["x0", "x_0"]).getD 0.0,
      (firstValue? parameters ["y0", "y_0", "h", "h0"]).getD 0.0,
      0.0⟩
    velocity := launchVelocity parameters
    mass := statedMass parameters
    properties := .ofList (statedProperties.filterMap fun (key, symbols) =>
      (firstValue? parameters symbols).map fun x => (key, propertyValue x)) }

/-- The bodies of a problem. -/
def Problem.bodies (p : Problem) (parameters : Table Parameter) : List Entity :=
  if p.objects.isEmpty then [defaultBody parameters]
  else p.objects.zipIdx.map fun (o, place) => o.toBody place parameters

/-- The number of coordinates that the bodies use: up to the last one in which a position or
velocity differs from zero. -/
def usedDimensions (bodies : List Entity) : Nat :=
  let uses (coordinate : Vec3 → Float) : Bool :=
    bodies.any fun b => coordinate b.position != 0.0 || coordinate b.velocity != 0.0
  if uses Vec3.z then 3 else if uses Vec3.y then 2 else 1

end PhysicsLab
