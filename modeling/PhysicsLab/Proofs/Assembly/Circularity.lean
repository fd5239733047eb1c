import PhysicsLab.Proofs.Assembly.Merging
import PhysicsLab.Proofs.Assembly.Resolved

/-!
# Which circular definitions are found

A merged parameter has the formula that came first and the dependencies that came last.  Validation
looks for cycles of dependencies only.  So what it checks is not what the formulas in the merged
table mention, but what the last declaration of each symbol mentions; and of that only the symbols
that are at hand there, which are those of the same table and the stated ones.

A circular definition is found if each mention in it is one of a last declaration.  It is overlooked
if a later declaration of a symbol has another formula, or if it runs through blocks that know
nothing of each other.

## Main definitions

* `Model.Mentions` — what the formulas in the merged table mention
* `Problem.lastTable`, `Problem.LastMentions` — where the last declaration of a symbol stands, and
  what it mentions

## Main statements

* `Problem.dependsOn_iff_lastMentions` — the graph that is checked
* `Problem.acyclic_of_isValid`
-/

namespace PhysicsLab

open PhysicsLab.Validation
open Relation

/-! ## §1 Dependencies within one table -/

/-- A parameter stands under its symbol, and its dependencies are exactly those of some symbols that
its formula mentions, its own apart. -/
structure Parameter.ReadOff (symbols : List String) (key : String) (q : Parameter) : Prop where
  placed : q.symbol = key
  mem_dependencies : ∀ d, d ∈ q.dependencies ↔
    d ∈ symbols ∧ d ≠ key ∧ ∃ formula, q.formula = some formula ∧ d ∈ Formula.identifiers formula

theorem Parameter.readOff_withDependencies (q : Parameter) (symbols : List String) :
    (q.withDependencies symbols).ReadOff symbols q.symbol :=
  ⟨rfl, fun _ => mem_dependencies_withDependencies⟩

theorem readOff_statedTable (ps : List StatedParameter) :
    (statedTable ps).Every (Parameter.ReadOff (statedTable ps).keys) :=
  every_statedTable fun q _ _ => q.toParameter.readOff_withDependencies _

theorem KnowledgeBlock.readOff_table (c : KnowledgeBlock) (stated : Table Parameter) :
    (c.table stated).Every (Parameter.ReadOff ((c.table stated).keys ++ stated.keys)) := by
  apply every_table
  · intro q _
    exact q.toParameter.readOff_withDependencies _
  · intro e _ name _ _
    exact (impliedParameter name c.domain (c.equationId e)).readOff_withDependencies _

/-- In every table that is merged, the symbols at hand are those of the table and the stated
ones. -/
theorem PhysicsModule.DrawnFrom.mem_dependencies {l : Library} {ps : List StatedParameter}
    {b : PhysicsModule} (h : b.DrawnFrom l (statedTable ps)) {symbol d : String} {q : Parameter}
    (hq : b.parameters.get? symbol = some q) :
    d ∈ q.dependencies ↔ (d ∈ b.parameters.keys ∨ d ∈ (statedTable ps).keys) ∧ d ≠ symbol ∧
      ∃ formula, q.formula = some formula ∧ d ∈ Formula.identifiers formula := by
  have hentry := Table.mem_of_get? hq
  cases h with
  | stated hparameters _ =>
    rw [hparameters] at hentry ⊢
    rw [or_self]
    exact (readOff_statedTable ps _ hentry).mem_dependencies d
  | block c _ hparameters _ =>
    rw [hparameters] at hentry ⊢
    rw [← List.mem_append]
    exact (c.readOff_table (statedTable ps) _ hentry).mem_dependencies d

/-! ## §2 The last declaration -/

/-- The formula under a symbol. -/
def Table.formula? (t : Table Parameter) (symbol : String) : Option String :=
  (t.get? symbol).bind Parameter.formula

/-- The formula under a symbol of the merged table mentions another symbol of it. -/
def Model.Mentions (m : Model) (symbol d : String) : Prop :=
  d ∈ m.parameters.keys ∧ d ≠ symbol ∧
    ∃ formula ∈ m.parameters.formula? symbol, d ∈ Formula.identifiers formula

instance (m : Model) (symbol d : String) : Decidable (m.Mentions symbol d) :=
  inferInstanceAs (Decidable (_ ∧ _ ∧ ∃ formula ∈ m.parameters.formula? symbol,
    d ∈ Formula.identifiers formula))

/-- The table with the last declaration of a symbol: that of the last module that has the symbol, or
else that of the stated parameters. -/
def Problem.lastTable (p : Problem) (modules : List PhysicsModule) (symbol : String) :
    Table Parameter :=
  match modules.reverse.find? fun b => b.parameters.has symbol with
  | some b => b.parameters
  | none => statedTable p.parameters

/-- A symbol is at hand where another one is declared last: it is in the same table, or stated. -/
def Problem.AtHand (p : Problem) (modules : List PhysicsModule) (symbol d : String) : Prop :=
  d ∈ (p.lastTable modules symbol).keys ∨ d ∈ (statedTable p.parameters).keys

/-- The formula in the last declaration of a symbol mentions another one that is at hand there. -/
def Problem.LastMentions (p : Problem) (modules : List PhysicsModule) (symbol d : String) : Prop :=
  p.AtHand modules symbol d ∧ d ≠ symbol ∧
    ∃ formula ∈ (p.lastTable modules symbol).formula? symbol, d ∈ Formula.identifiers formula

/-- A mention in the merged table that is one of the last declaration too: the formula is the same,
and the other symbol is at hand there. -/
def Problem.SeenMention (p : Problem) (m : Model) (symbol d : String) : Prop :=
  m.Mentions symbol d ∧ p.AtHand m.modules symbol d ∧
    (p.lastTable m.modules symbol).formula? symbol = m.parameters.formula? symbol

instance (p : Problem) (m : Model) (symbol d : String) :
    Decidable (p.SeenMention m symbol d) :=
  inferInstanceAs (Decidable (_ ∧ (_ ∨ _) ∧ _))

theorem Problem.SeenMention.lastMentions {p : Problem} {m : Model} {symbol d : String}
    (h : p.SeenMention m symbol d) : p.LastMentions m.modules symbol d := by
  obtain ⟨⟨-, hne, hmention⟩, hhand, hsame⟩ := h
  rw [← hsame] at hmention
  exact ⟨hhand, hne, hmention⟩

theorem get?_of_find?_has {modules : List PhysicsModule} {t : Table Parameter} {symbol : String} :
    (modules.findSome? fun b => b.parameters.get? symbol).or (t.get? symbol) =
      (match modules.find? fun b : PhysicsModule => b.parameters.has symbol with
        | some b => b.parameters
        | none => t).get? symbol := by
  induction modules with
  | nil => rfl
  | cons b rest ih =>
    rw [List.findSome?_cons, List.find?_cons, Table.has_eq_isSome]
    cases hb : b.parameters.get? symbol with
    | none => exact ih
    | some q => simp [hb]

/-- The dependencies in a merged table are those of last declarations. -/
theorem Problem.map_dependencies_mergeModules (p : Problem) (modules : List PhysicsModule)
    (symbol : String) :
    ((mergeModules (statedTable p.parameters) modules).get? symbol).map Parameter.dependencies =
      ((p.lastTable modules symbol).get? symbol).map Parameter.dependencies := by
  have htaken : ∀ p q : Parameter, (p.adopt q).dependencies = q.dependencies := fun _ _ => rfl
  rw [map_get?_mergeModules_of_taken htaken, get?_of_find?_has]
  rfl

/-! ## §3 The graph that is checked -/

section Assembled

variable (p : Problem) (l : Library) (settings : RunSettings)

theorem Problem.mem_dependencies_lastTable {symbol d : String} {q : Parameter}
    (hq : (p.lastTable (p.toModel l settings).modules symbol).get? symbol = some q) :
    d ∈ q.dependencies ↔ p.LastMentions (p.toModel l settings).modules symbol d := by
  rw [LastMentions, AtHand, Table.formula?, hq, Option.bind_some]
  unfold lastTable at hq ⊢
  split at hq
  · next b hb =>
    have hmem := List.mem_reverse.1 (List.mem_of_find?_eq_some hb)
    exact (p.drawnFrom_toModel l settings hmem).mem_dependencies hq
  · rw [or_self]
    exact (readOff_statedTable _ _ (Table.mem_of_get? hq)).mem_dependencies d

/-- A parameter of an assembled model depends on another exactly if its last declaration mentions
the other one. -/
theorem Problem.dependsOn_iff_lastMentions (symbol d : String) :
    ParameterDependsOn (p.toModel l settings) symbol d ↔
      p.LastMentions (p.toModel l settings).modules symbol d := by
  have hresolved := p.resolved_toModel l settings
  have hmerged : ((p.toModel l settings).parameters.get? symbol).map Parameter.dependencies =
      ((p.lastTable (p.toModel l settings).modules symbol).get? symbol).map
        Parameter.dependencies := p.map_dependencies_mergeModules _ symbol
  constructor
  · rintro ⟨⟨q, hq, rfl, hd⟩, -⟩
    obtain ⟨e, he, rfl⟩ := List.mem_map.1 hq
    rw [hresolved.placed e he] at hmerged ⊢
    rw [Table.get?_of_mem he, Option.map_some, eq_comm, Option.map_eq_some_iff] at hmerged
    obtain ⟨last, hlast, heq⟩ := hmerged
    rw [← heq] at hd
    exact (p.mem_dependencies_lastTable l settings hlast).1 hd
  · intro hmentions
    obtain ⟨last, hlast⟩ : ∃ last,
        (p.lastTable (p.toModel l settings).modules symbol).get? symbol = some last := by
      -- Where something is mentioned, there is a declaration.
      obtain ⟨-, -, formula, hformula, -⟩ := hmentions
      obtain ⟨last, hlast, -⟩ := Option.bind_eq_some_iff.1 hformula
      exact ⟨last, hlast⟩
    rw [hlast, Option.map_some, Option.map_eq_some_iff] at hmerged
    obtain ⟨q, hq, heq⟩ := hmerged
    have hd : d ∈ q.dependencies := by
      rw [heq]
      exact (p.mem_dependencies_lastTable l settings hlast).2 hmentions
    have hentry := Table.mem_of_get? hq
    have hvalue : q ∈ (p.toModel l settings).parameters.values := List.mem_map_of_mem hentry
    -- All that a parameter depends on resolves, so the key of the other one is there.
    exact ⟨⟨q, hvalue, hresolved.placed _ hentry, hd⟩, Table.mem_keys_of_mem hentry,
      (hresolved.dependencies q hvalue d hd).1⟩

/-- If nothing is wrong with the dependencies of an assembled model, then what last declarations
mention forms no cycle.  So the formulas in the merged table form no cycle either, as far as what
they mention is seen. -/
theorem Problem.acyclic_of_isValid
    (hvalid : (Outcome.mk .dependency (dependency (p.toModel l settings))).isValid = true) :
    (∀ symbol, ¬ TransGen (p.LastMentions (p.toModel l settings).modules) symbol symbol) ∧
      ∀ symbol, ¬ TransGen (p.SeenMention (p.toModel l settings)) symbol symbol := by
  obtain ⟨-, -, -, -, hacyclic⟩ := (isValid_dependency_iff _).1 hvalid
  have hlast : ∀ symbol,
      ¬ TransGen (p.LastMentions (p.toModel l settings).modules) symbol symbol := by
    intro symbol hcycle
    have hle : p.LastMentions (p.toModel l settings).modules ≤
        ParameterDependsOn (p.toModel l settings) :=
      fun a d => (p.dependsOn_iff_lastMentions l settings a d).2
    exact hacyclic symbol (TransGen.mono hle symbol symbol hcycle)
  refine ⟨hlast, fun symbol hcycle => hlast symbol ?_⟩
  have hle : p.SeenMention (p.toModel l settings) ≤
      p.LastMentions (p.toModel l settings).modules := fun _ _ h => h.lastMentions
  exact TransGen.mono hle symbol symbol hcycle

end Assembled

/-- Blocks that both declare a symbol, one with a formula and one without. -/
def springLibrary : Library where
  blocks := [
    { id := "spring"
      name := "Spring"
      parameters := [
        { symbol := "omega", value := 1.0, unit := "rad/s", role := .derived,
          formula := some "sqrt(k / m)" },
        { symbol := "T", value := 1.0, unit := "s", role := .derived,
          formula := some "2 * pi / omega" }]
      dependencies := ["mass"] },
    { id := "mass"
      name := "Mass"
      parameters := [
        { symbol := "m", value := 1.0, unit := "kg", role := .derived,
          formula := some "rho * V" },
        { symbol := "T", value := 1.0, unit := "s", role := .derived }] }]
  distinct := by decide

/-- A problem with formulas of its own. -/
def springProblem : Problem where
  parameters := [
    { symbol := "k", value := 2.0, unit := "N/m", formula := some "m * a" },
    { symbol := "rho", value := 2.0, unit := "kg/m^3" },
    { symbol := "V", value := 1.0, unit := "m^3" }]
  modules := ["spring"]

/-- The formula stated for `k` is seen from `omega`, while that of the first `T` is lost to the
second, and no symbol comes back to itself. -/
theorem acyclic_springProblem :
    springProblem.SeenMention (springProblem.toModel springLibrary {}) "omega" "k" ∧
      ¬ springProblem.SeenMention (springProblem.toModel springLibrary {}) "T" "omega" ∧
      ∀ symbol, ¬ TransGen (springProblem.SeenMention (springProblem.toModel springLibrary {}))
        symbol symbol := by
  obtain ⟨-, hacyclic⟩ := springProblem.acyclic_of_isValid springLibrary {} (by decide +kernel)
  exact ⟨by decide +kernel, by decide, hacyclic⟩

/-- A block that declares symbols without formulas. -/
def plainLibrary : Library where
  blocks := [
    { id := "oscillator"
      name := "Oscillator"
      parameters := [{ symbol := "k", value := 1.0, unit := "N/m", role := .given },
        { symbol := "m", value := 1.0, unit := "kg", role := .given }] }]
  distinct := by decide

/-- Stated definitions that run in a circle. -/
def circularProblem : Problem where
  parameters := [
    { symbol := "k", value := 1.0, unit := "N/m", formula := some "m" },
    { symbol := "m", value := 1.0, unit := "kg", formula := some "k" }]
  modules := ["oscillator"]

/-- Blocks that define a symbol by one that only the other block has. -/
def strangersLibrary : Library where
  blocks := [
    { id := "a"
      name := "A"
      parameters := [{ symbol := "x", value := 1.0, unit := "1", role := .derived,
                       formula := some "y" }] },
    { id := "b"
      name := "B"
      parameters := [{ symbol := "y", value := 1.0, unit := "1", role := .derived,
                       formula := some "x" }] }]
  distinct := by decide

/-- A problem that selects both blocks. -/
def strangersProblem : Problem where
  modules := ["a", "b"]

/-- Circular definitions may be overlooked, because a later declaration has no formula, or because
the symbols are not at hand for each other. -/
theorem circular_of_isValid :
    (dependency (circularProblem.toModel plainLibrary {}) = [] ∧
      TransGen (circularProblem.toModel plainLibrary {}).Mentions "k" "k") ∧
    dependency (strangersProblem.toModel strangersLibrary {}) = [] ∧
      TransGen (strangersProblem.toModel strangersLibrary {}).Mentions "x" "x" := by
  have hk : (circularProblem.toModel plainLibrary {}).Mentions "k" "m" := by decide
  have hm : (circularProblem.toModel plainLibrary {}).Mentions "m" "k" := by decide
  have hx : (strangersProblem.toModel strangersLibrary {}).Mentions "x" "y" := by decide
  have hy : (strangersProblem.toModel strangersLibrary {}).Mentions "y" "x" := by decide
  refine ⟨⟨?_, .tail (.single hk) hm⟩, ?_, .tail (.single hx) hy⟩
  · decide
  · decide

end PhysicsLab
