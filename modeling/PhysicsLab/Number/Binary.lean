/-!
# Binary floating point, taken apart

A finite double is a sign and a magnitude `mantissa · 2 ^ exponent`.  This module reads the two off
the bit pattern, and from them the one conversion to whole numbers that the library needs: rounding
to the nearest count, a half going up, within the range of an unsigned 64-bit word.
-/

namespace PhysicsLab.Number

/-- The number `mantissa · 2 ^ exponent`. -/
structure Dyadic where
  mantissa : Nat
  exponent : Int
  deriving DecidableEq, Inhabited

/-- Whether the sign bit is set; true of negative zero. -/
def signBit (x : Float) : Bool := Nat.pow 2 63 ≤ x.toBits.toNat

/-- The magnitude of a finite number. -/
def magnitude (x : Float) : Dyadic :=
  let bits : Nat := x.toBits.toNat
  let fraction : Nat := bits % Nat.pow 2 52
  let biased : Nat := bits / Nat.pow 2 52 % 2048
  -- The mantissa of a number in the normal range has a leading bit that is not stored.
  if biased = 0 then ⟨fraction, -1074⟩ else ⟨fraction + Nat.pow 2 52, (biased : Int) - 1075⟩

/-! ## Counts -/

/-- The largest count: what an unsigned 64-bit word holds. -/
def countLimit : Nat := UInt64.size - 1

/-- A count kept within the limit. -/
def clampCount (n : Nat) : Nat := min n countLimit

/-- The whole number nearest to a magnitude, a half going up. -/
def Dyadic.round (d : Dyadic) : Nat :=
  if 0 ≤ d.exponent then d.mantissa * Nat.pow 2 d.exponent.toNat
  else
    let den := Nat.pow 2 (-d.exponent).toNat
    (2 * d.mantissa + den) / (2 * den)

/-- The count nearest to a number, a half going up.  Negative numbers and NaN count as zero, and
numbers beyond the limit as the limit. -/
def toCount (x : Float) : Nat :=
  if x.isNaN || signBit x then 0
  else if x.isFinite then clampCount (magnitude x).round
  else countLimit

end PhysicsLab.Number
