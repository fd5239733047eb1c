import PhysicsLab.Convention
import PhysicsLab.Model

/-!
# Findings about a model

A finding is one thing that is wrong or odd about a model.  Each belongs to one of six aspects and
is an error or a warning; its code names the aspect and a number.  The cause is kept, and code,
text, subject and suggestion are functions of it.

## Main definitions

* `Aspect` — the six aspects under which a model is checked
* `Finding` — with `aspect`, `isError`, `code`, `message`, `subject?`, `suggestion?`, `text`
-/

namespace PhysicsLab.Validation

open PhysicsLab.Number

/-! ## §1 Aspects -/

/-- An aspect under which a model is checked. -/
inductive Aspect where
  | structural
  | logical
  | dependency
  | physics
  | units
  | equations
  deriving DecidableEq, Inhabited

instance : Labelled Aspect where
  all := [.structural, .logical, .dependency, .physics, .units, .equations]
  label
    | .structural => "structural"
    | .logical => "logical"
    | .dependency => "dependency"
    | .physics => "physics"
    | .units => "units"
    | .equations => "equations"

namespace Aspect

/-- Whether an error under the aspect blocks a run. -/
def blocks : Aspect → Bool
  | structural => true
  | logical => false
  | dependency => true
  | physics => false
  | units => false
  | equations => true

/-- The letter of the aspect in codes. -/
def letter : Aspect → String
  | structural => "S"
  | logical => "L"
  | dependency => "D"
  | physics => "P"
  | units => "U"
  | equations => "E"

end Aspect

/-! ## §2 Findings -/

/-- What is wrong or odd about a model. -/
inductive Finding where
  | missingSection (name : String)
  | badDuration (value : Float)
  | badTimeStep (value : Float)
  | coarseTimeStep (step duration : Float)
  | noModules
  | noBodies
  | emptySymbol (key : String)
  | misplacedSymbol (key symbol : String)
  | presetUnknown (symbol : String) (value : Float)
  | repeatedSymbol (symbol : String) (count : Nat)
  | unregistered (owner symbol : String)
  | duplicateModule (id : String)
  | missingModule (owner dependency : String)
  | moduleCycle
  | undefinedDependency (symbol dependency : String)
  | parameterCycle (symbol : String)
  | wrongDimension (symbol : String) (actual expected : Exponents)
  | badGravity (value : Float)
  | badTemperature (value : Float)
  | oddRestitution (value : Float)
  | badMass (body : String) (value : Float)
  | nonFiniteState (body : String)
  | unrepresentedLaw (kind : Conserved)
  | missingUnit (symbol : String) (usual : Option Exponents)
  | unknownUnit (symbol unit : String)
  | uncommonUnit (symbol unit : String)
  | timeUnit (symbol unit : String)
  | gravityUnit (unit : String)
  | emptyEquation (id : String)
  | undefinedTerm (id : String)
  | unresolvedName (equation name : String) (usual : Option Exponents)
  deriving DecidableEq

namespace Finding

/-- The aspect of a finding, its number there, and whether it is an error. -/
def classify : Finding → Aspect × Nat × Bool
  | missingSection .. => (.structural, 1, true)
  | badDuration .. => (.structural, 2, true)
  | badTimeStep .. => (.structural, 3, true)
  | coarseTimeStep .. => (.structural, 4, false)
  | noModules => (.structural, 5, false)
  | noBodies => (.structural, 6, false)
  | emptySymbol .. => (.logical, 1, true)
  | misplacedSymbol .. => (.logical, 2, true)
  | presetUnknown .. => (.logical, 3, false)
  | repeatedSymbol .. => (.logical, 4, true)
  | unregistered .. => (.logical, 5, true)
  | duplicateModule .. => (.dependency, 1, true)
  | missingModule .. => (.dependency, 2, true)
  | moduleCycle => (.dependency, 3, true)
  | undefinedDependency .. => (.dependency, 4, true)
  | parameterCycle .. => (.dependency, 5, true)
  | wrongDimension .. => (.physics, 1, true)
  | badGravity .. => (.physics, 2, true)
  | badTemperature .. => (.physics, 3, true)
  | oddRestitution .. => (.physics, 4, false)
  | badMass .. => (.physics, 5, true)
  | nonFiniteState .. => (.physics, 6, true)
  | unrepresentedLaw .. => (.physics, 7, false)
  | missingUnit .. => (.units, 1, true)
  | unknownUnit .. => (.units, 2, false)
  | uncommonUnit .. => (.units, 3, false)
  | timeUnit .. => (.units, 4, false)
  | gravityUnit .. => (.units, 5, false)
  | emptyEquation .. => (.equations, 1, true)
  | undefinedTerm .. => (.equations, 2, true)
  | unresolvedName .. => (.equations, 3, true)

/-- The aspect of a finding. -/
def aspect (f : Finding) : Aspect := f.classify.1

/-- Whether a finding is an error, and not a warning. -/
def isError (f : Finding) : Bool := f.classify.2.2

/-- The code of a finding. -/
def code (f : Finding) : String := "IR-" ++ f.aspect.letter ++ "0" ++ writeNat f.classify.2.1

/-- A name in quotes. -/
def quoted (name : String) : String := "'" ++ name ++ "'"

/-- What is wrong or odd. -/
def message : Finding → String
  | missingSection name => "missing required section: " ++ name
  | badDuration value => "duration must be positive, got " ++ writeFloat value
  | badTimeStep value => "time step must be positive, got " ++ writeFloat value
  | coarseTimeStep step duration =>
    "time step " ++ writeFloat step ++ " is not much smaller than duration " ++ writeFloat duration
  | noModules => "IR has no modules"
  | noBodies => "IR has no entities to simulate"
  | emptySymbol _ => "parameter with empty symbol"
  | misplacedSymbol key symbol =>
    "parameter slot " ++ quoted key ++ " holds symbol " ++ quoted symbol
  | presetUnknown symbol value =>
    "unknown " ++ quoted symbol ++ " already has value " ++ writeFloat value
  | repeatedSymbol symbol count =>
    "symbol " ++ quoted symbol ++ " registered " ++ writeNat count ++ " times"
  | unregistered owner symbol =>
    "module " ++ quoted owner ++ " parameter " ++ quoted symbol ++ " is not in the global table"
  | duplicateModule id => "duplicate module id " ++ quoted id
  | missingModule owner dependency =>
    "module " ++ quoted owner ++ " depends on missing module " ++ quoted dependency
  | moduleCycle => "module dependency graph has a cycle"
  | undefinedDependency symbol dependency =>
    "parameter " ++ quoted symbol ++ " depends on undefined " ++ quoted dependency
  | parameterCycle symbol => "parameter dependency cycle through " ++ quoted symbol
  | wrongDimension symbol actual expected =>
    quoted symbol ++ " has dimension " ++ actual.text ++ ", expected " ++ expected.text
  | badGravity value => "gravity must be non-negative, got " ++ writeFloat value
  | badTemperature value => "temperature " ++ writeFloat value ++ " K is below absolute zero"
  | oddRestitution value => "restitution " ++ writeFloat value ++ " outside [0, 1]"
  | badMass body value => "entity " ++ quoted body ++ " has mass " ++ writeFloat value
  | nonFiniteState body => "entity " ++ quoted body ++ " has a non-finite state"
  | unrepresentedLaw kind => "no parameter carries the quantity of the " ++ labelOf kind ++ " law"
  | missingUnit symbol _ => quoted symbol ++ " has no unit"
  | unknownUnit symbol unit =>
    quoted symbol ++ " has unrecognised unit " ++ quoted unit ++
      "; its value is used without SI conversion"
  | uncommonUnit symbol unit =>
    quoted symbol ++ " uses unit " ++ quoted unit ++ " outside the allow-list"
  | timeUnit symbol unit => quoted symbol ++ " should be stated in s, got " ++ quoted unit
  | gravityUnit unit => "gravity should be stated in m/s^2, got " ++ quoted unit
  | emptyEquation id => "equation " ++ quoted id ++ " is empty"
  | undefinedTerm id => "equation " ++ quoted id ++ " contains an undefined term"
  | unresolvedName equation name _ =>
    "equation " ++ quoted equation ++ " references unresolved " ++ quoted name

/-- The symbol, module, body or section that a finding is about. -/
def subject? : Finding → Option String
  | missingSection name => some name
  | badDuration _ => some "duration"
  | badTimeStep _ => some "time_step"
  | coarseTimeStep .. => none
  | noModules => none
  | noBodies => none
  | emptySymbol key => some key
  | misplacedSymbol _ symbol => some symbol
  | presetUnknown symbol _ => some symbol
  | repeatedSymbol symbol _ => some symbol
  | unregistered _ symbol => some symbol
  | duplicateModule id => some id
  | missingModule _ dependency => some dependency
  | moduleCycle => none
  | undefinedDependency _ dependency => some dependency
  | parameterCycle symbol => some symbol
  | wrongDimension symbol _ _ => some symbol
  | badGravity _ => some "gravity"
  | badTemperature _ => some "temperature"
  | oddRestitution _ => some "restitution"
  | badMass body _ => some body
  | nonFiniteState body => some body
  | unrepresentedLaw kind => some (labelOf kind)
  | missingUnit symbol _ => some symbol
  | unknownUnit symbol _ => some symbol
  | uncommonUnit symbol _ => some symbol
  | timeUnit symbol _ => some symbol
  | gravityUnit _ => some "g"
  | emptyEquation id => some id
  | undefinedTerm id => some id
  | unresolvedName _ name _ => some name

/-- Steps that a run is to have at least. -/
def stepsPerRun : Float := 100.0

/-- How a finding could be mended. -/
def suggestion? : Finding → Option String
  | coarseTimeStep _ duration =>
    some ("use a time step below " ++ writeFloat (duration / stepsPerRun))
  | moduleCycle => some "remove the dependency that closes the cycle"
  | wrongDimension symbol _ expected =>
    some ("state " ++ quoted symbol ++ " in " ++ Convention.unitFor expected)
  | missingUnit _ (some d) => some ("expected " ++ Convention.unitFor d)
  | missingUnit _ none => some "use '1' for dimensionless values"
  | unresolvedName _ name (some d) =>
    some ("declare " ++ quoted name ++ " with dimension " ++ d.text ++ " [" ++
      Convention.unitFor d ++ "]")
  | unresolvedName _ _ none => some "no dimension could be inferred; declare it explicitly"
  | _ => none

/-- A finding in one line. -/
def text (f : Finding) : String :=
  "[" ++ f.code ++ "] " ++ f.message ++
    match f.suggestion? with
    | some s => " (" ++ s ++ ")"
    | none => ""

end Finding

end PhysicsLab.Validation
