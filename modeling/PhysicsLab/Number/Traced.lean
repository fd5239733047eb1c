/-!
# The sign of NaN

The bit pattern of a number that is not a number shows where it comes from.  One that is given has a
clear sign bit; one that arises from an operation on other numbers has it set; and an operation
hands on the first of its operands that is not a number.  A `Float` does not have these bits, for it
takes every NaN for the same one.  A traced number remembers which it is, so that its bits can be
written; nothing but the bytes of a series is computed with traced numbers.
-/

namespace PhysicsLab.Number

/-- A number and, for NaN, whether it arose from an operation. -/
structure Traced where
  value : Float
  arisen : Bool

namespace Traced

/-- A number that is given. -/
def given (x : Float) : Traced := ⟨x, false⟩

/-- A number that was computed from others, none of which was NaN. -/
def computed (x : Float) : Traced := ⟨x, true⟩

/-- The result of an operation. -/
def combine (f : Float → Float → Float) (a b : Traced) : Traced :=
  if a.value.isNaN then a else if b.value.isNaN then b else computed (f a.value b.value)

instance : Add Traced := ⟨combine (· + ·)⟩
instance : Sub Traced := ⟨combine (· - ·)⟩
instance : Mul Traced := ⟨combine (· * ·)⟩

/-- The bits of NaN with a clear sign bit. -/
def nanBits : Nat := 2047 * Nat.pow 2 52 + Nat.pow 2 51

/-- The bits of a number. -/
def bits (t : Traced) : Nat :=
  if t.value.isNaN then (if t.arisen then nanBits + Nat.pow 2 63 else nanBits)
  else t.value.toBits.toNat

/-- A stored number with the origin of a computed one, if both are NaN. -/
def originOf (stored : Float) (computed : Traced) : Traced :=
  ⟨stored, computed.value.isNaN && computed.arisen⟩

end Traced

end PhysicsLab.Number
