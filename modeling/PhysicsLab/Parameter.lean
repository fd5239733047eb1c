import PhysicsLab.Label
import PhysicsLab.Quantity
import PhysicsLab.Table
import PhysicsLab.Text.SmallLetters

/-!
# Parameters

A parameter is a symbol with a quantity and a role in the problem: stated, sought, constant or
derived from others.
-/

namespace PhysicsLab

open PhysicsLab.Text

/-- What a parameter is to the problem. -/
inductive ParameterRole where
  | given
  | unknown
  | constant
  | derived
  deriving DecidableEq, Inhabited

instance : Labelled ParameterRole where
  all := [.given, .unknown, .constant, .derived]
  label
    | .given => "given"
    | .unknown => "unknown"
    | .constant => "constant"
    | .derived => "derived"

/-- The role that a free label names; a label that is not understood stands for a stated value. -/
def ParameterRole.ofText (label : String) : ParameterRole :=
  let word := toSmall (trim label)
  if ["unknown", "target", "find", "output"].contains word then unknown
  else if ["constant", "const"].contains word then constant
  else if ["derived", "computed", "intermediate"].contains word then derived
  else given

/-- Whether the value of a parameter is an input of the equations it occurs in. -/
def ParameterRole.isInput : ParameterRole → Bool
  | given => true
  | constant => true
  | unknown => false
  | derived => false

/-- A symbol with a quantity. -/
structure Parameter where
  symbol : String
  quantity : Quantity
  role : ParameterRole
  description : String := ""
  /-- Symbols that the formula refers to. -/
  dependencies : List String := []
  constraints : List String := []
  formula : Option String := none
  deriving DecidableEq

/-- A parameter of a value in a unit. -/
def Parameter.of (symbol : String) (value : Float) (unit : String) (role : ParameterRole) :
    Parameter :=
  { symbol, quantity := .of value unit, role }

/-- The SI value of a parameter. -/
def Parameter.siValue (p : Parameter) : Float := p.quantity.siValue

/-- The SI value of the first of some symbols that is in a table. -/
def firstValue? (parameters : Table Parameter) (symbols : List String) : Option Float :=
  (symbols.findSome? parameters.get?).map Parameter.siValue

end PhysicsLab
