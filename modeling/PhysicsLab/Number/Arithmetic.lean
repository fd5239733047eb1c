/-!
# Arithmetic of doubles

Comparisons that pass over NaN, and sums.  Where one of two numbers is NaN, `larger` and `smaller`
give the other one; of equal ones they give the second, so that a negative zero is lifted to the
positive one that bounds it.  A sum runs from the left and starts from negative zero, the neutral
element of addition.
-/

namespace PhysicsLab.Number

/-- The larger of two numbers; the other one if one is NaN. -/
def larger (a b : Float) : Float := if b.isNaN || b < a then a else b

/-- The smaller of two numbers; the other one if one is NaN. -/
def smaller (a b : Float) : Float := if b.isNaN || a < b then a else b

/-- A number moved into an interval; NaN stays. -/
def clamp (low high x : Float) : Float := if x < low then low else if high < x then high else x

/-- The sum of some numbers. -/
def sum (xs : List Float) : Float := xs.foldl (· + ·) (-0.0)

/-- The distance from one to the next double. -/
def epsilon : Float := 2.220446049250313e-16

/-- Half a turn. -/
def pi : Float := 3.141592653589793

/-- The part of a total; the whole where the total is zero. -/
def ratio (part total : Nat) : Float :=
  if total = 0 then 1.0 else Float.ofNat part / Float.ofNat total

end PhysicsLab.Number
