import PhysicsLab.Assembly.Parameters
import PhysicsLab.Convention
import PhysicsLab.Library.Resolution
import PhysicsLab.Library.Selection

/-!
# Modules of a problem

Every block of the resolution becomes a module.  A name in an equation of the block that is neither
declared by the block nor stated by the problem gets a parameter with the usual dimension and value
of its symbol, so that no equation refers to nothing.

A problem for which no block is selected gets one module of its own.
-/

namespace PhysicsLab

/-- The module of a problem about which nothing in particular is known. -/
def genericModule (stated : Table Parameter) : PhysicsModule :=
  { id := "generic"
    name := "Generic Mechanics"
    description := "Known parameters under uniform gravity"
    domain := .generic
    parameters := stated
    conservationLaws := [Conserved.mass.law]
    assumptions := ["uniform gravity"]
    limitations := ["no domain-specific forces"] }

/-! ## §1 Parameters of a block -/

/-- The parameter that a declaration gives. -/
def DeclaredParameter.toParameter (p : DeclaredParameter) : Parameter :=
  { Parameter.of p.symbol p.value p.unit p.role with
    description := p.description
    formula := p.formula }

/-- The id of an equation of a block in a model. -/
def KnowledgeBlock.equationId (b : KnowledgeBlock) (e : DeclaredEquation) : String :=
  b.id ++ "_" ++ e.id

/-- The parameter of a symbol that an equation refers to and nobody declares. -/
def impliedParameter (symbol : String) (domain : Domain) (equationId : String) : Parameter :=
  let unit := match Convention.dimension? symbol (some domain) with
    | some d => Convention.unitFor d
    | none => ""
  { Parameter.of symbol (Convention.defaultValue symbol (some domain)) unit .derived with
    description := "referenced by " ++ equationId }

/-- Adds the parameters of the names in an equation that are neither in the table nor stated. -/
def KnowledgeBlock.addImplied (b : KnowledgeBlock) (stated t : Table Parameter)
    (e : DeclaredEquation) : Table Parameter :=
  (Formula.identifiers e.expression).foldl
    (fun t name =>
      if t.has name || stated.has name then t
      else t.put name (impliedParameter name b.domain (b.equationId e)))
    t

/-- The parameters of a block: the declared ones, and those that its equations imply. -/
def KnowledgeBlock.table (b : KnowledgeBlock) (stated : Table Parameter) : Table Parameter :=
  let declared := Table.ofList (b.parameters.map fun p => (p.symbol, p.toParameter))
  let t := b.equations.foldl (b.addImplied stated) declared
  -- Formulas may refer to parameters of the block, implied ones among them, and to stated ones.
  t.mapValues fun _ p => p.withDependencies (t.keys ++ stated.keys)

/-! ## §2 Equations of a block -/

/-- Whether the value of a name is an input of the equations of a module. -/
def isInput (t stated : Table Parameter) (name : String) : Bool :=
  ((t.get? name).or (stated.get? name)).any fun p => p.role.isInput

/-- The equation in a model that a declaration gives. -/
def KnowledgeBlock.toEquation (b : KnowledgeBlock) (t stated : Table Parameter)
    (e : DeclaredEquation) : Equation :=
  let names := Formula.identifiers e.expression
  { id := b.equationId e
    kind := e.kind
    expression := e.expression
    symbols := names
    parameters := names.filter (isInput t stated)
    order := Formula.differentialOrder? e.expression
    linear := e.linear
    meaning := e.meaning }

/-! ## §3 Modules -/

/-- The module of a block that builds on some others.  A generic block that declares no parameters
gives the module about which nothing in particular is known. -/
def KnowledgeBlock.toModule (b : KnowledgeBlock) (dependencies : List String)
    (stated : Table Parameter) : PhysicsModule :=
  if b.domain = .generic ∧ b.parameters.isEmpty then
    { genericModule stated with dependencies }
  else
    let t := b.table stated
    { id := b.id
      name := b.name
      description := b.description
      domain := b.domain
      parameters := t
      equations := b.equations.map (b.toEquation t stated)
      dependencies
      conservationLaws := b.conserves.map Conserved.law
      assumptions := b.assumptions
      limitations := b.limitations
      complexity := b.complexity
      outputs := b.outputs }

/-- The modules of a problem with the knowledge of a library. -/
def Problem.modulesWith (p : Problem) (l : Library) (stated : Table Parameter) :
    List PhysicsModule :=
  let selected := l.selection p
  if selected.isEmpty then [genericModule stated]
  else
    let r := l.resolve selected
    r.blocks.map fun b => b.toModule (r.dependenciesOf b.id) stated

end PhysicsLab
