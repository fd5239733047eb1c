import PhysicsLab.Formula
import PhysicsLab.Model
import PhysicsLab.Problem

/-!
# Tables of parameters

The stated parameters become a table, and the tables of the modules are merged into it.  In both,
the first quantity that is given for a symbol stays.

## Main definitions

* `statedTable` — the table of the stated parameters
* `mergeModules` — a table with those of some modules merged into it
-/

namespace PhysicsLab

open PhysicsLab.Text

/-! ## §1 Dependencies -/

/-- Those of some symbols that the formula of a parameter refers to, its own symbol apart. -/
def Parameter.formulaDependencies (p : Parameter) (symbols : List String) : List String :=
  match p.formula with
  | none => []
  | some formula => Formula.referenced formula (symbols.filter fun s => s != p.symbol)

/-- The parameter with the dependencies that its formula shows among some symbols. -/
def Parameter.withDependencies (p : Parameter) (symbols : List String) : Parameter :=
  { p with dependencies := p.formulaDependencies symbols }

/-! ## §2 Stated parameters -/

/-- The parameter that a statement gives. -/
def StatedParameter.toParameter (p : StatedParameter) : Parameter :=
  { symbol := trim p.symbol
    quantity := { Quantity.of p.value (trim p.unit) with uncertainty := p.uncertainty }
    role := .ofText p.role
    description := p.description
    formula := p.formula }

/-- Adds a stated parameter.  One without a symbol is passed over, and so is one whose symbol is
there. -/
def addStated (t : Table Parameter) (p : StatedParameter) : Table Parameter :=
  let q := p.toParameter
  if q.symbol.isEmpty || t.has q.symbol then t else t.put q.symbol q

/-- The table of the stated parameters. -/
def statedTable (ps : List StatedParameter) : Table Parameter :=
  let t := ps.foldl addStated .empty
  -- Only now are all symbols known that a formula may refer to.
  t.mapValues fun _ p => p.withDependencies t.keys

/-! ## §3 Merging -/

/-- The parameter after another one has come under its symbol: the quantity stays, as does a formula
that is there, and the rest is taken over. -/
def Parameter.adopt (p incoming : Parameter) : Parameter :=
  { p with
    role := incoming.role
    description := incoming.description
    dependencies := incoming.dependencies
    constraints := incoming.constraints
    formula := p.formula.or incoming.formula }

/-- Merges a parameter into a table. -/
def mergeEntry (t : Table Parameter) (symbol : String) (incoming : Parameter) : Table Parameter :=
  match t.get? symbol with
  | some p => t.put symbol (p.adopt incoming)
  | none => t.put symbol incoming

/-- Merges the entries of a table into another. -/
def mergeTable (t other : Table Parameter) : Table Parameter :=
  other.entries.foldl (fun t e => mergeEntry t e.1 e.2) t

/-- Merges the tables of some modules into a table. -/
def mergeModules (t : Table Parameter) (modules : List PhysicsModule) : Table Parameter :=
  modules.foldl (fun t b => mergeTable t b.parameters) t

end PhysicsLab
