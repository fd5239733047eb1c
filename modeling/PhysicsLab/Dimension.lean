import PhysicsLab.Number.Decimal

/-!
# Physical dimensions

A dimension is a vector of exponents over the seven base quantities.  Exponents are 32-bit words,
and the algebra comes in two forms: the *checked* operations (`mul?`, `div?`, `pow?`) fail as soon
as one exponent would leave the word, the *saturating* ones (`mul`, `div`, `pow`) stop at its ends.
Both compute in the integers first, so they agree wherever the checked form succeeds.

A quantity whose unit could not be understood has the dimension `unknown`, which absorbs everything
it is combined with.

## Main definitions

* `Exponents` — a vector of exponents, with checked and saturating operations
* `Exponents.text` — the text of a vector, a product of powers of base units
* `Dimension` — a vector or the unknown dimension, and `Dimension.combine`
-/

namespace PhysicsLab

open PhysicsLab.Number

/-! ## §1 Exponents -/

/-- Whether an integer fits into an exponent. -/
def fitsExponent (n : Int) : Bool := -2147483648 ≤ n && n ≤ 2147483647

/-- The exponent nearest to an integer. -/
def clampExponent (n : Int) : Int32 := Int32.ofInt (max (-2147483648) (min n 2147483647))

/-- Exponents over length, mass, time, current, temperature, amount and luminosity. -/
structure Exponents where
  powers : Vector Int32 7
  deriving DecidableEq

namespace Exponents

/-- The vector with the given exponents, in the order of the base quantities. -/
def of (length mass time current temperature amount luminosity : Int32) : Exponents :=
  ⟨#v[length, mass, time, current, temperature, amount, luminosity]⟩

/-- The exponent of a base quantity, as an integer. -/
def get (d : Exponents) (i : Fin 7) : Int := d.powers[i].toInt

/-- The exponents as integers. -/
def toList (d : Exponents) : List Int := d.powers.toList.map Int32.toInt

/-- The vector of seven exponents that all fit. -/
def build? (f : Fin 7 → Int) : Option Exponents :=
  if ∀ i, fitsExponent (f i) = true then some ⟨Vector.ofFn fun i => Int32.ofInt (f i)⟩ else none

/-- The vector of seven exponents, each clamped to its range. -/
def build (f : Fin 7 → Int) : Exponents := ⟨Vector.ofFn fun i => clampExponent (f i)⟩

/-- The vector of a list of seven integers that all fit. -/
def ofList? (xs : List Int) : Option Exponents :=
  if xs.length = 7 then build? fun i => xs.getD i.val 0 else none

/-! ### The algebra -/

/-- The dimension of a product. -/
def mul? (a b : Exponents) : Option Exponents := build? fun i => a.get i + b.get i

/-- The dimension of a quotient. -/
def div? (a b : Exponents) : Option Exponents := build? fun i => a.get i - b.get i

/-- The dimension of a power. -/
def pow? (a : Exponents) (n : Int) : Option Exponents := build? fun i => a.get i * n

/-- The dimension of a product, exponents stopping at the ends of their range. -/
def mul (a b : Exponents) : Exponents := build fun i => a.get i + b.get i

/-- The dimension of a quotient, exponents stopping at the ends of their range. -/
def div (a b : Exponents) : Exponents := build fun i => a.get i - b.get i

/-- The dimension of a power, exponents stopping at the ends of their range. -/
def pow (a : Exponents) (n : Int) : Exponents := build fun i => a.get i * n

/-- The dimension of a reciprocal. -/
def inverse (a : Exponents) : Exponents := a.pow (-1)

/-! ### Named dimensions -/

def dimensionless : Exponents := of 0 0 0 0 0 0 0
def length : Exponents := of 1 0 0 0 0 0 0
def mass : Exponents := of 0 1 0 0 0 0 0
def time : Exponents := of 0 0 1 0 0 0 0
def current : Exponents := of 0 0 0 1 0 0 0
def temperature : Exponents := of 0 0 0 0 1 0 0
def amount : Exponents := of 0 0 0 0 0 1 0
def luminosity : Exponents := of 0 0 0 0 0 0 1
def velocity : Exponents := of 1 0 (-1) 0 0 0 0
def acceleration : Exponents := of 1 0 (-2) 0 0 0 0
def force : Exponents := of 1 1 (-2) 0 0 0 0
def energy : Exponents := of 2 1 (-2) 0 0 0 0
def power : Exponents := of 2 1 (-3) 0 0 0 0
def momentum : Exponents := of 1 1 (-1) 0 0 0 0
def angularMomentum : Exponents := of 2 1 (-1) 0 0 0 0
def pressure : Exponents := of (-1) 1 (-2) 0 0 0 0
def frequency : Exponents := of 0 0 (-1) 0 0 0 0
def stiffness : Exponents := of 0 1 (-2) 0 0 0 0
def damping : Exponents := of 0 1 (-1) 0 0 0 0
def charge : Exponents := of 0 0 1 1 0 0 0
def voltage : Exponents := of 2 1 (-3) (-1) 0 0 0
def electricField : Exponents := of 1 1 (-3) (-1) 0 0 0
def magneticField : Exponents := of 0 1 (-2) (-1) 0 0 0
def density : Exponents := of (-3) 1 0 0 0 0 0
def area : Exponents := of 2 0 0 0 0 0 0
def volume : Exponents := of 3 0 0 0 0 0 0
def wavenumber : Exponents := of (-1) 0 0 0 0 0 0

/-- The dimensions with a common name. -/
def named : List (Exponents × String) := [
  (dimensionless, "dimensionless"), (length, "length"), (mass, "mass"), (time, "time"),
  (current, "current"), (temperature, "temperature"), (amount, "amount"),
  (luminosity, "luminosity"), (velocity, "velocity"), (acceleration, "acceleration"),
  (force, "force"), (energy, "energy"), (power, "power"), (momentum, "momentum"),
  (angularMomentum, "angular momentum"), (pressure, "pressure"), (frequency, "frequency"),
  (stiffness, "stiffness"), (damping, "damping"), (charge, "charge"), (voltage, "voltage"),
  (electricField, "electric field"), (magneticField, "magnetic field"), (density, "density"),
  (area, "area"), (volume, "volume"), (wavenumber, "wavenumber")]

/-- The common name of a dimension. -/
def name? (d : Exponents) : Option String := named.lookup d

/-- Whether every exponent is zero. -/
def isDimensionless (d : Exponents) : Bool := d.toList.all (· == 0)

/-! ### Text -/

/-- The base units, in the order of the exponents. -/
def baseUnits : List String := ["m", "kg", "s", "A", "K", "mol", "cd"]

/-- A base unit raised to an exponent. -/
def factorText (symbol : String) (n : Int) : String :=
  if n = 1 then symbol else symbol ++ "^" ++ writeInt n

/-- The factors with an exponent other than zero. -/
def factorTexts (d : Exponents) : List String :=
  (baseUnits.zip d.toList).filterMap fun (symbol, n) =>
    if n = 0 then none else some (factorText symbol n)

/-- A product of powers of base units, or 1. -/
def text (d : Exponents) : String :=
  if d.isDimensionless then "1" else String.intercalate "·" d.factorTexts

end Exponents

/-! ## §2 Dimensions -/

/-- A known dimension, or that of a unit that could not be understood. -/
inductive Dimension where
  | known (exponents : Exponents)
  | unknown
  deriving DecidableEq

/-- The two ways of combining quantities. -/
inductive Combination where
  | product
  | quotient
  deriving DecidableEq

namespace Dimension

/-- The dimension of a product or quotient.  An unknown operand makes the result unknown, and so
does an exponent that leaves its range. -/
def combine (c : Combination) : Dimension → Dimension → Dimension
  | known a, known b =>
    -- One exponent out of range spoils the whole dimension.
    match (match c with | .product => a.mul? b | .quotient => a.div? b) with
    | some d => known d
    | none => unknown
  | _, _ => unknown

/-- The exponents of a known dimension. -/
def exponents? : Dimension → Option Exponents
  | known d => some d
  | unknown => none

/-- Whether the dimension is unknown. -/
def isUnknown : Dimension → Bool
  | known _ => false
  | unknown => true

/-- A dimension that is known if the exponents are there. -/
def ofExponents? : Option Exponents → Dimension
  | some d => known d
  | none => unknown

/-- The text of a dimension. -/
def text : Dimension → String
  | known d => d.text
  | unknown => "unknown"

end Dimension

end PhysicsLab
