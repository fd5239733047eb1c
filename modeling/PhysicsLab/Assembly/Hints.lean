import PhysicsLab.Graph
import PhysicsLab.Model

/-!
# Hints of a model

What can be worked out before a run: the SI values of the constants, the expressions of the
differential equations, and in which layers the modules can be treated side by side.
-/

namespace PhysicsLab

/-- The graph of a table that lists for each key what it depends on; what is no key is left out. -/
def dependencyGraph (t : Table (List String)) : Graph String :=
  { vertices := t.keys
    edges := t.entries.flatMap fun e => (e.2.filter t.has).map fun d => (e.1, d) }

/-- The layers of a table that lists for each key what it depends on; all keys in one layer if they
form a cycle. -/
def layersOf (t : Table (List String)) : List (List String) :=
  (dependencyGraph t).layers?.getD [t.keys]

/-- The hints of a model with some parameters and modules. -/
def Hints.of (parameters : Table Parameter) (modules : List PhysicsModule) : Hints :=
  let graph := Table.ofList (modules.map fun b => (b.id, b.dependencies))
  { constants := .ofList ((parameters.values.filter fun p => p.role = .constant).map fun p =>
      (p.symbol, p.siValue))
    differentials := .ofList (((modules.flatMap PhysicsModule.equations).filter fun e =>
      e.kind = .differential).map fun e => (e.id, e.expression))
    moduleGraph := graph
    layers := layersOf graph }

end PhysicsLab
