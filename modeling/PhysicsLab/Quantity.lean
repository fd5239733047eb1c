import PhysicsLab.Units.Conversion

/-!
# Physical quantities

A quantity keeps the number and the unit it was stated in, and the dimension of that unit.
Quantities are multiplied and divided without converting them: the numbers and the dimensions are
combined, and the unit texts are joined, each in parentheses if it is itself a product or quotient.
-/

namespace PhysicsLab

open PhysicsLab.Units

/-- A number with a unit, its dimension and what is known about its precision. -/
structure Quantity where
  value : Float
  unit : String
  dimension : Dimension
  uncertainty : Option Float := none
  precision : Option Nat := none
  range : Option (Float × Float) := none
  deriving DecidableEq

namespace Quantity

/-- The quantity of a number in a unit. -/
def of (value : Float) (unit : String) : Quantity :=
  { value, unit, dimension := dimensionOf unit }

/-- The value in SI; the number itself if its unit could not be understood. -/
def siValue (q : Quantity) : Float := (toSI? q.value q.unit).getD q.value

/-! ## Products and quotients -/

/-- A unit text as an operand: in parentheses if it holds an operator. -/
def unitOperand (unit : String) : String :=
  if unit.toList.any fun c => c == '/' || c == '*' || c == ' ' then "(" ++ unit ++ ")" else unit

/-- The sign between the operands of a combination. -/
def combinationSign : Combination → String
  | .product => "*"
  | .quotient => "/"

/-- The unit text of a combination.  An empty unit counts as 1 and is left out where it can be. -/
def joinUnits (c : Combination) (left right : String) : String :=
  match left.isEmpty, right.isEmpty, c with
  | true, true, _ => ""
  | false, true, _ => left
  | true, false, .quotient => "1/" ++ unitOperand right
  | true, false, .product => right
  | false, false, _ => unitOperand left ++ combinationSign c ++ unitOperand right

/-- A product or quotient of quantities. -/
def combine (c : Combination) (a b : Quantity) : Quantity :=
  { value := match c with
      | .product => a.value * b.value
      | .quotient => a.value / b.value
    unit := joinUnits c a.unit b.unit
    dimension := a.dimension.combine c b.dimension }

end Quantity

end PhysicsLab
