import PhysicsLab.Label

/-!
# Conserved quantities

The quantities that knowledge blocks declare to be conserved, and the laws that say so.
-/

namespace PhysicsLab

/-- A quantity that can be conserved. -/
inductive Conserved where
  | energy
  | momentum
  | angularMomentum
  | charge
  | mass
  | bodyCount
  deriving DecidableEq, Inhabited

instance : Labelled Conserved where
  all := [.energy, .momentum, .angularMomentum, .charge, .mass, .bodyCount]
  label
    | .energy => "energy"
    | .momentum => "momentum"
    | .angularMomentum => "angular_momentum"
    | .charge => "charge"
    | .mass => "mass"
    | .bodyCount => "particle_count"

/-- A declared conservation law. -/
structure ConservationLaw where
  kind : Conserved
  expression : String
  symbols : List String := []
  tolerance : Float
  deriving DecidableEq

/-- The law as a knowledge block declares it. -/
def Conserved.law : Conserved → ConservationLaw
  | .energy => ⟨.energy, "KE + PE = const", ["KE", "PE"], 0.01⟩
  | .momentum => ⟨.momentum, "sum(m * v) = const", ["m", "v"], 0.01⟩
  | .angularMomentum => ⟨.angularMomentum, "sum(r x m * v) = const", ["r", "m", "v"], 0.01⟩
  | .charge => ⟨.charge, "sum(q) = const", ["q"], 0.001⟩
  | .mass => ⟨.mass, "sum(m) = const", ["m"], 0.001⟩
  | .bodyCount => ⟨.bodyCount, "N = const", ["N"], 0.0⟩

/-- Adds a law, unless there is one about its quantity. -/
def addLaw (laws : List ConservationLaw) (law : ConservationLaw) : List ConservationLaw :=
  if laws.any fun l => l.kind = law.kind then laws else laws ++ [law]

/-- The first law about each quantity. -/
def onePerKind (laws : List ConservationLaw) : List ConservationLaw := laws.foldl addLaw []

end PhysicsLab
