import PhysicsLab.Dimension

/-!
# Unit symbols

The units that can be named on their own: the SI base and derived units, and the prefixed and
customary units in use beside them.  Each symbol has a dimension and a `Scale`, which takes a value
stated in the unit to the coherent SI unit of that dimension.

The Celsius and Fahrenheit scales have an offset.  It counts for a value that is stated in the bare
unit; as a part of a compound unit, a degree is an interval.
-/

namespace PhysicsLab.Units

/-- How a value stated in a unit becomes one in the coherent SI unit. -/
inductive Scale where
  /-- The unit is the coherent one. -/
  | coherent
  /-- The value is multiplied. -/
  | times (factor : Float)
  /-- The value is divided. -/
  | dividedBy (divisor : Float)
  /-- The value is counted from another zero, and then multiplied. -/
  | shifted (offset factor : Float)

/-- A value in SI. -/
def Scale.apply : Scale → Float → Float
  | coherent, v => v
  | times factor, v => v * factor
  | dividedBy divisor, v => v / divisor
  | shifted offset factor, v => (v + offset) * factor

/-- What one interval of the unit is in SI. -/
def Scale.interval : Scale → Float
  | shifted _ factor => factor
  | s => s.apply 1.0

/-- A unit that can be named on its own. -/
structure Symbol where
  name : String
  exponents : Exponents
  scale : Scale

open Exponents Scale

/-- A Celsius degree above the zero of the absolute scale. -/
def celsius : Scale := shifted 273.15 1.0

/-- A Fahrenheit degree. -/
def fahrenheit : Scale := shifted 459.67 (5.0 / 9.0)

/-- A degree of arc. -/
def degree : Scale := times 0.017453292519943295

/-- The unit symbols. -/
def symbols : List Symbol := [
  ⟨"m", length, coherent⟩, ⟨"kg", mass, coherent⟩, ⟨"s", time, coherent⟩,
  ⟨"A", current, coherent⟩, ⟨"K", temperature, coherent⟩, ⟨"mol", amount, coherent⟩,
  ⟨"cd", luminosity, coherent⟩,
  ⟨"N", force, coherent⟩, ⟨"J", energy, coherent⟩, ⟨"W", power, coherent⟩,
  ⟨"Pa", pressure, coherent⟩, ⟨"Hz", frequency, coherent⟩, ⟨"V", voltage, coherent⟩,
  ⟨"Ω", of 2 1 (-3) (-2) 0 0 0, coherent⟩, ⟨"ohm", of 2 1 (-3) (-2) 0 0 0, coherent⟩,
  ⟨"S", of (-2) (-1) 3 2 0 0 0, coherent⟩, ⟨"F", of (-2) (-1) 4 2 0 0 0, coherent⟩,
  ⟨"H", of 2 1 (-2) (-2) 0 0 0, coherent⟩, ⟨"T", magneticField, coherent⟩,
  ⟨"Wb", of 2 1 (-2) (-1) 0 0 0, coherent⟩, ⟨"C", charge, coherent⟩,
  ⟨"rad", dimensionless, coherent⟩, ⟨"sr", dimensionless, coherent⟩,
  ⟨"lm", luminosity, coherent⟩, ⟨"lx", of (-2) 0 0 0 0 0 1, coherent⟩,
  ⟨"eV", energy, times 1.602176634e-19⟩,
  ⟨"km", length, times 1000.0⟩, ⟨"cm", length, times 0.01⟩, ⟨"mm", length, times 0.001⟩,
  ⟨"um", length, times 1e-6⟩, ⟨"µm", length, times 1e-6⟩, ⟨"nm", length, times 1e-9⟩,
  ⟨"ft", length, times 0.3048⟩, ⟨"in", length, times 0.0254⟩, ⟨"mi", length, times 1609.344⟩,
  ⟨"g", mass, times 0.001⟩, ⟨"mg", mass, times 1e-6⟩, ⟨"lb", mass, times 0.4535924⟩,
  ⟨"ms", time, times 0.001⟩, ⟨"us", time, times 1e-6⟩, ⟨"µs", time, times 1e-6⟩,
  ⟨"ns", time, times 1e-9⟩, ⟨"min", time, times 60.0⟩, ⟨"h", time, times 3600.0⟩,
  ⟨"hr", time, times 3600.0⟩, ⟨"day", time, times 86400.0⟩,
  ⟨"kN", force, times 1000.0⟩, ⟨"kJ", energy, times 1000.0⟩, ⟨"cal", energy, times 4.184⟩,
  ⟨"kW", power, times 1000.0⟩, ⟨"kPa", pressure, times 1000.0⟩, ⟨"MPa", pressure, times 1e6⟩,
  ⟨"atm", pressure, times 101325.0⟩, ⟨"bar", pressure, times 1e5⟩,
  ⟨"kHz", frequency, times 1000.0⟩, ⟨"MHz", frequency, times 1e6⟩,
  ⟨"GHz", frequency, times 1e9⟩,
  ⟨"mA", current, times 1e-3⟩, ⟨"mV", voltage, times 1e-3⟩, ⟨"kV", voltage, times 1e3⟩,
  ⟨"mT", magneticField, times 1e-3⟩, ⟨"µC", charge, times 1e-6⟩, ⟨"uC", charge, times 1e-6⟩,
  ⟨"nC", charge, times 1e-9⟩,
  ⟨"L", volume, times 0.001⟩, ⟨"mL", volume, times 1e-6⟩,
  ⟨"°C", temperature, celsius⟩, ⟨"degC", temperature, celsius⟩,
  ⟨"celsius", temperature, celsius⟩, ⟨"°F", temperature, fahrenheit⟩,
  ⟨"degF", temperature, fahrenheit⟩, ⟨"kelvin", temperature, coherent⟩,
  ⟨"°", dimensionless, degree⟩, ⟨"deg", dimensionless, degree⟩,
  ⟨"degree", dimensionless, degree⟩, ⟨"degrees", dimensionless, degree⟩,
  ⟨"rev", dimensionless, times 6.283185307179586⟩, ⟨"rpm", frequency, dividedBy 60.0⟩,
  ⟨"mph", velocity, times 0.44704⟩, ⟨"kmh", velocity, times 0.2777777777777778⟩,
  ⟨"1", dimensionless, coherent⟩, ⟨"dimensionless", dimensionless, coherent⟩,
  ⟨"unitless", dimensionless, coherent⟩, ⟨"none", dimensionless, coherent⟩]

/-- The unit with a symbol. -/
def symbol? (name : String) : Option Symbol := symbols.find? fun u => u.name == name

/-- Whether a symbol is that of a unit. -/
def isSymbol (name : String) : Bool := (symbol? name).isSome

/-- The scale of a unit that is written as a whole: that of a symbol, or of kilometres per hour. -/
def wholeScale? (name : String) : Option Scale :=
  if name = "km/h" then some (times 0.2777777777777778) else (symbol? name).map Symbol.scale

/-- What one interval of a unit is in SI. -/
def interval? (name : String) : Option Float := (wholeScale? name).map Scale.interval

end PhysicsLab.Units
