import PhysicsLab.Units.Expression

/-!
# Conversion to SI

A value stated in a bare unit is converted by that unit's scale, its offset included; a value in a
compound unit is multiplied by the factor of the expression.  The module also holds the physical
constants that serve as defaults.
-/

namespace PhysicsLab.Units

open PhysicsLab.Text

/-- The SI value of a number stated in a unit, if the unit can be understood. -/
def toSI? (value : Float) (unit : String) : Option Float :=
  let unit := trim unit
  match wholeScale? unit with
  | some scale => some (scale.apply value)
  | none => (parse? unit).map fun u => value * u.factor

/-- Standard gravity in m/s². -/
def standardGravity : Float := 9.80665

/-- The speed of light in m/s. -/
def speedOfLight : Float := 299792458.0

/-- Room temperature in kelvin. -/
def roomTemperature : Float := 293.15

end PhysicsLab.Units
