import PhysicsLab.Domain
import PhysicsLab.Units.Conversion

/-!
# Conventions about symbols

What a symbol usually stands for.  A symbol that nothing is known about gets its dimension, unit and
value from these tables, and a stated quantity is checked against them.

Decorations do not count: `v0`, `x_0`, `vx` and `v_y` all reduce to the symbol they are formed from.

## Main definitions

* `baseSymbol` — a symbol without decorations
* `dimension?`, `defaultValue` — the usual dimension and value of a symbol
* `unitFor` — the usual unit of a dimension
* `expectedDimension?`, `isAllowedUnit` — what a stated quantity is checked against
-/

namespace PhysicsLab.Convention

open PhysicsLab.Text PhysicsLab.Units

/-! ## §1 Decorations -/

/-- A symbol without the digits at its end. -/
def withoutIndex (cs : List Char) : List Char := (cs.reverse.dropWhile Char.isDigit).reverse

/-- A vector symbol without the letter of its component: `vx` is a component of `v`. -/
def withoutComponent (cs : List Char) : List Char :=
  match cs with
  | [head, component] =>
    if ['x', 'y', 'z'].contains component && ['v', 'a', 'F', 'p', 'E', 'B'].contains head
    then [head] else cs
  | _ => cs

/-- A symbol without its index and component. -/
def baseChars (cs : List Char) : List Char :=
  -- An index may come with an underscore in front, as in `x_0`.
  let cs := withoutIndex (trimChars cs)
  let cs := (stripEnd? ['_'] cs).getD cs
  match stripEnd? ['_', 'x'] cs, stripEnd? ['_', 'y'] cs, stripEnd? ['_', 'z'] cs with
  | some head, _, _ => head
  | none, some head, _ => head
  | none, none, some head => head
  | none, none, none => withoutComponent cs

/-- A symbol without its index and component. -/
def baseSymbol (symbol : String) : String := String.ofList (baseChars symbol.toList)

/-! ## §2 Usual dimensions and values -/

/-- The symbols and names of each dimension, whatever the domain. -/
def usualSymbols : List (Exponents × List String) := [
  (.length, ["x", "y", "z", "r", "h", "d", "s", "L", "l", "R", "A", "lambda", "λ", "wavelength",
    "height", "distance", "position", "range"]),
  (.velocity, ["v", "u", "c", "speed", "velocity"]),
  (.acceleration, ["a", "g", "acceleration"]),
  (.time, ["t", "time", "tau", "τ", "T", "T_period", "period"]),
  (.force, ["F", "N", "W_f", "force", "weight"]),
  (.mass, ["m", "M", "mass"]),
  (.energy, ["E", "KE", "PE", "U", "W", "K_E", "energy", "work"]),
  (.power, ["P", "power"]),
  (.momentum, ["p", "momentum"]),
  (.angularMomentum, ["L_ang", "angular_momentum"]),
  (.wavenumber, ["k_wave", "wavenumber"]),
  (.stiffness, ["k", "stiffness", "spring_constant"]),
  (.damping, ["b", "gamma", "damping"]),
  (.frequency, ["omega", "ω", "f", "nu", "ν", "frequency"]),
  (.charge, ["q", "Q", "charge"]),
  (.magneticField, ["B"]),
  (.voltage, ["V", "voltage"]),
  (.current, ["I", "current"]),
  (.density, ["rho", "ρ", "density"]),
  (.pressure, ["pressure"]),
  (.dimensionless, ["theta", "θ", "phi", "φ", "alpha", "mu", "μ", "e", "n", "angle", "ratio"])]

/-- The symbols that mean something else in one domain. -/
def domainSymbols : List ((String × Domain) × Exponents) := [
  (("T", .thermal), .temperature),
  (("E", .electromagnetic), .electricField),
  (("P", .fluid), .pressure),
  (("k", .wave), .wavenumber)]

/-- The components of the electric field, which are not components of an energy. -/
def fieldSymbols : List String := ["E_field", "E_x", "E_y", "E_z"]

/-- The usual dimension of a symbol, in a domain if one is known. -/
def dimension? (symbol : String) (domain : Option Domain) : Option Exponents :=
  let raw := trim symbol
  if fieldSymbols.contains raw then some .electricField
  else
    let base := baseSymbol raw
    match domain.bind fun d => domainSymbols.lookup (base, d) with
    | some e => some e
    | none =>
      match usualSymbols.find? fun row => row.2.contains base with
      | some row => some row.1
      | none =>
        if ["temperature", "temp"].contains (toSmall base) then some .temperature else none

/-- The value that a symbol gets where none is stated. -/
def defaultValue (symbol : String) (domain : Option Domain) : Float :=
  match baseSymbol symbol, domain with
  | "g", _ => 9.81
  | "k", some .wave => 1.0
  | "k", _ => 10.0
  | "m", _ => 1.0
  | "M", _ => 1.0
  | "A", _ => 0.1
  | "T", some .thermal => roomTemperature
  | "rho", some .fluid => 1000.0
  | "ρ", some .fluid => 1000.0
  | "e", _ => 0.8
  | "c", _ => speedOfLight
  | _, _ => 0.0

/-- The units that dimensions are usually stated in. -/
def usualUnits : List (Exponents × String) := [
  (.dimensionless, "1"), (.length, "m"), (.mass, "kg"), (.time, "s"), (.current, "A"),
  (.temperature, "K"), (.velocity, "m/s"), (.acceleration, "m/s^2"), (.force, "N"),
  (.energy, "J"), (.power, "W"), (.momentum, "kg*m/s"), (.pressure, "Pa"), (.frequency, "Hz"),
  (.stiffness, "N/m"), (.damping, "kg/s"), (.charge, "C"), (.voltage, "V"),
  (.electricField, "V/m"), (.magneticField, "T"), (.density, "kg/m^3"), (.wavenumber, "1/m")]

/-- The unit of a dimension: the usual one, or a product of powers of base units. -/
def unitFor (d : Exponents) : String := (usualUnits.lookup d).getD d.text

/-! ## §3 Expectations on stated quantities -/

/-- A symbol, a part of the names of the systems in which it is expected to have a dimension, and
that dimension.  An empty part stands for every system; an earlier row overrules a later one. -/
def expectations : List (String × String × Exponents) := [
  ("k", "wave", .wavenumber), ("k", "spring", .stiffness), ("k", "oscillat", .stiffness),
  ("T", "thermal", .temperature), ("T", "heat", .temperature), ("T", "spring", .time),
  ("T", "pendulum", .time), ("T", "oscillat", .time), ("E", "electr", .electricField),
  ("m", "", .mass), ("M", "", .mass), ("g", "", .acceleration), ("v0", "", .velocity),
  ("v", "", .velocity), ("a", "", .acceleration), ("t", "", .time), ("x0", "", .length),
  ("y0", "", .length), ("h", "", .length), ("F", "", .force), ("q", "", .charge),
  ("B", "", .magneticField), ("E_field", "", .electricField), ("rho", "", .density),
  ("b", "", .damping), ("mu", "", .dimensionless), ("theta", "", .dimensionless)]

/-- The dimension that a symbol is expected to have in a system. -/
def expectedDimension? (symbol systemType : String) : Option Exponents :=
  let system := toSmall systemType
  (expectations.find? fun row => row.1 == symbol && contains system row.2.1).map fun row => row.2.2

/-- The unit symbols that are in common use. -/
def commonUnits : List String := [
  "m", "kg", "s", "A", "K", "mol", "cd", "N", "J", "W", "Pa", "Hz", "V", "Ω", "ohm", "F", "H",
  "T", "C", "rad", "sr", "eV", "km", "cm", "mm", "nm", "g", "ms", "min", "h", "kN", "kJ",
  "kPa", "atm", "kHz", "MHz", "mA", "mV", "kV", "µC", "uC", "nC", "L", "mL", "°C", "°F",
  "°", "deg", "rpm", "1", "dimensionless"]

/-- The characters that separate the symbols of a compound unit. -/
def separatesUnits (c : Char) : Bool :=
  ['*', '/', '(', ')', '^', '·', '⋅', '-', '²', '³', '⁻', '¹'].contains c || isBlank c || c.isDigit

/-- Whether a unit is in common use: as a whole, or by each of its symbols. -/
def isAllowedUnit (unit : String) : Bool :=
  let cs := trimChars unit.toList
  if commonUnits.contains (String.ofList cs) then true
  else
    let atoms := (cutWords separatesUnits cs).map String.ofList
    !atoms.isEmpty && atoms.all commonUnits.contains

/-- The symbols of durations, which are to be stated in seconds. -/
def timeSymbols : List String := ["t", "dt", "duration", "time_step", "t_total"]

/-- The spellings of metres per second squared. -/
def accelerationUnits : List String := ["m/s^2", "m/s²", "m*s^-2", "m s^-2", "m·s⁻²"]

end PhysicsLab.Convention
