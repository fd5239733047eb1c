import PhysicsLab.Library.Standard
import PhysicsLab.Proofs.Assembly.ModuleGraph
import PhysicsLab.Proofs.Assembly.Resolved
import PhysicsLab.Proofs.Text.Trimming

/-!
# Models of the standard library can be run

A model that is assembled from a well-stated library has hardly anything left to be wrong about it.
Its modules come from a resolution, so they are distinct, depend on each other and form no cycle.
Its symbols resolve and are not blank, and its equations are those of the library.  What remains are
settings that are not positive, and formulas of the problem itself that run in a circle.

Without formulas in the problem, every dependency of a parameter was read off a formula of the
library, whichever blocks were selected and in whatever order their tables were merged.  The
formulas of the whole library form one graph, and it has no cycle.

## Main definitions

* `Library.formulaGraph` — which symbols the formulas of a library refer to
* `Library.WellStated` — a library without blank texts whose formulas form no cycle

## Main statements

* `Library.WellStated.mem_blocking`
* `Library.wellStated_standard`
* `Problem.toModel_standard_runs`
-/

namespace PhysicsLab

open PhysicsLab.Text PhysicsLab.Validation
open Relation

/-! ## §1 The formulas of a library -/

namespace Library

/-- The symbols of a library with a formula, each with the other symbols that its formula refers
to. -/
def formulaLinks (l : Library) : List (String × String) :=
  l.blocks.flatMap fun b => b.parameters.flatMap fun p => p.formula.toList.flatMap fun formula =>
    ((Formula.identifiers formula).filter fun d => d != p.symbol).map fun d => (p.symbol, d)

/-- The graph of the formulas of a library. -/
def formulaGraph (l : Library) : Graph String :=
  ⟨l.formulaLinks.flatMap fun e => [e.1, e.2], l.formulaLinks⟩

theorem closed_formulaGraph (l : Library) : l.formulaGraph.Closed := by
  intro symbol d hedge
  constructor
  · exact List.mem_flatMap.2 ⟨(symbol, d), hedge, List.mem_cons_self⟩
  · exact List.mem_flatMap.2 ⟨(symbol, d), hedge, List.mem_cons_of_mem _ List.mem_cons_self⟩

theorem mem_formulaLinks {l : Library} {b : KnowledgeBlock} (hb : b ∈ l.blocks)
    {p : DeclaredParameter} (hp : p ∈ b.parameters) {formula d : String}
    (hformula : p.formula = some formula) (hd : d ∈ Formula.identifiers formula)
    (hne : d ≠ p.symbol) : (p.symbol, d) ∈ l.formulaLinks := by
  refine List.mem_flatMap.2 ⟨b, hb, List.mem_flatMap.2 ⟨p, hp, List.mem_flatMap.2
    ⟨formula, by simp [hformula], List.mem_map.2 ⟨d, ?_, rfl⟩⟩⟩⟩
  exact List.mem_filter.2 ⟨hd, bne_iff_ne.2 hne⟩

end Library

/-- A parameter stands under its symbol, and depends on what some formula of the library for that
symbol refers to. -/
structure Parameter.LinkedIn (l : Library) (key : String) (p : Parameter) : Prop where
  placed : p.symbol = key
  linked : ∀ d ∈ p.dependencies, (key, d) ∈ l.formulaLinks

variable {l : Library} {p : Problem} {settings : RunSettings}

theorem linkedIn_statedTable (hplain : ∀ q ∈ p.parameters, q.formula = none) :
    (statedTable p.parameters).Every (Parameter.LinkedIn l) := by
  -- Where there is no formula, there are no dependencies.
  refine every_statedTable fun q hq _ => ⟨rfl, fun d hd => ?_⟩
  obtain ⟨-, -, formula, hformula, -⟩ := mem_dependencies_withDependencies.1 hd
  have hnone : q.toParameter.formula = none := hplain q hq
  rw [hnone] at hformula
  cases hformula

theorem KnowledgeBlock.linkedIn_table {c : KnowledgeBlock} (hc : c ∈ l.blocks)
    (stated : Table Parameter) : (c.table stated).Every (Parameter.LinkedIn l) := by
  refine every_table (fun q hq => ⟨rfl, fun d hd => ?_⟩) (fun e _ name _ _ => ⟨rfl, fun d hd => ?_⟩)
  · obtain ⟨-, hne, formula, hformula, hd⟩ := mem_dependencies_withDependencies.1 hd
    exact Library.mem_formulaLinks hc hq hformula hd hne
  · -- An implied parameter has no formula.
    obtain ⟨-, -, formula, hformula, -⟩ := mem_dependencies_withDependencies.1 hd
    cases hformula

/-- What holds of every stated parameter and of the table of every block holds of every entry of the
assembled table, if adopting a parameter keeps it. -/
theorem Problem.every_of_blocks {P : String → Parameter → Prop}
    (hadopt : ∀ key p q, P key p → P key q → P key (p.adopt q))
    (hstated : (statedTable p.parameters).Every P)
    (hblocks : ∀ c ∈ l.blocks, (c.table (statedTable p.parameters)).Every P) :
    (p.toModel l settings).parameters.Every P := by
  refine p.every_toModel l settings hadopt hstated fun b hb => ?_
  cases p.drawnFrom_toModel l settings hb with
  | stated hparameters _ => exact hparameters ▸ hstated
  | block c hc hparameters _ => exact hparameters ▸ hblocks c hc

/-- In a problem without formulas, the parameters depend on each other as the formulas of the
library say. -/
theorem Problem.formulaGraph_edge (hplain : ∀ q ∈ p.parameters, q.formula = none)
    {symbol d : String} (h : ParameterDependsOn (p.toModel l settings) symbol d) :
    l.formulaGraph.Edge symbol d := by
  have hlinked : (p.toModel l settings).parameters.Every (Parameter.LinkedIn l) :=
    every_of_blocks (fun _ _ _ hp hq => ⟨hp.placed, hq.linked⟩) (linkedIn_statedTable hplain)
      fun c hc => KnowledgeBlock.linkedIn_table hc _
  obtain ⟨⟨q, hq, rfl, hd⟩, -⟩ := h
  obtain ⟨e, he, rfl⟩ := List.mem_map.1 hq
  rw [(hlinked e he).placed]
  exact (hlinked e he).linked d hd

/-! ## §2 Well-stated libraries -/

/-- A library in which nothing is blank or undefined, whose formulas form no cycle, and which keeps
the id of the module about which nothing in particular is known for its own such block. -/
structure Library.WellStated (l : Library) : Prop where
  declared : ∀ b ∈ l.blocks, ∀ p ∈ b.parameters,
    isBlankText p.symbol = false ∧ isBlankText p.unit = false
  implied : ∀ b ∈ l.blocks, ∀ e ∈ b.equations, ∀ name ∈ Formula.identifiers e.expression,
    b.declares name = false → isBlankText name = false ∧
      isBlankText (impliedParameter name b.domain (b.equationId e)).quantity.unit = false
  expressions : ∀ b ∈ l.blocks, ∀ e ∈ b.equations,
    isBlankText e.expression = false ∧ Formula.hasUndefinedMarker e.expression = false
  generic : ∀ b ∈ l.blocks, b.domain = .generic → b.parameters.isEmpty = true → b.id = "generic"
  acyclic : l.formulaGraph.isCyclic = false

namespace Library.WellStated

variable (hl : l.WellStated)
include hl

/-- No symbol is blank: statements with a blank one are passed over. -/
theorem symbols_toModel : (p.toModel l settings).parameters.Every fun _ q =>
    isBlankText q.symbol = false := by
  refine Problem.every_of_blocks (fun _ _ _ hp _ => hp) ?_ fun c hc => ?_
  · refine every_statedTable fun q _ hsymbol => ?_
    show isBlankText (trim q.symbol) = false
    rw [isBlankText_trim, ← isEmpty_trim]
    exact hsymbol
  · refine KnowledgeBlock.every_table (fun q hq => ?_) (fun e he name hname hdeclares => ?_)
    · exact (hl.declared c hc q hq).1
    · exact (hl.implied c hc e he name hname hdeclares).1

/-- No unit is blank, unless the problem states one that is. -/
theorem units_toModel (hunits : ∀ q ∈ p.parameters, isBlankText q.unit = false) :
    (p.toModel l settings).parameters.Every fun _ q => isBlankText q.quantity.unit = false := by
  refine Problem.every_of_blocks (fun _ _ _ hp _ => hp) ?_ fun c hc => ?_
  · refine every_statedTable fun q hq _ => ?_
    show isBlankText (trim q.unit) = false
    rw [isBlankText_trim]
    exact hunits q hq
  · refine KnowledgeBlock.every_table (fun q hq => ?_) (fun e he name hname hdeclares => ?_)
    · exact (hl.declared c hc q hq).2
    · exact (hl.implied c hc e he name hname hdeclares).2

end Library.WellStated

/-! ## §3 What the checks find -/

/-- The settings that the simulation of a problem runs with: its own, or those of the run. -/
def Problem.simulationSettings (p : Problem) (settings : RunSettings) : SimulationSettings :=
  p.simulation.getD settings.simulation

/-- The only errors about the structure of an assembled model are settings that are not positive. -/
theorem Problem.mem_structural {f : Finding} (hf : f ∈ structural (p.toModel l settings))
    (herror : f.isError = true) :
    (isPositive (p.simulationSettings settings).duration = false ∧
        f = .badDuration (p.simulationSettings settings).duration) ∨
      (isPositive (p.simulationSettings settings).timeStep = false ∧
        f = .badTimeStep (p.simulationSettings settings).timeStep) :=
  mem_structural_of_isError rfl rfl rfl rfl hf herror

theorem Problem.isError_structural
    (hduration : isPositive (p.simulationSettings settings).duration = true)
    (hstep : isPositive (p.simulationSettings settings).timeStep = true) {f : Finding}
    (hf : f ∈ structural (p.toModel l settings)) : f.isError = false := by
  by_contra herror
  rcases mem_structural hf (by simpa using herror) with ⟨hbad, -⟩ | ⟨hbad, -⟩
  · rw [hduration] at hbad
    cases hbad
  · rw [hstep] at hbad
    cases hbad

namespace Library.WellStated

variable (hl : l.WellStated)
include hl

theorem isError_logical {f : Finding} (hf : f ∈ logical (p.toModel l settings)) :
    f.isError = false := by
  rcases (p.resolved_toModel l settings).mem_logical hf with
    ⟨e, he, hblank, -⟩ | ⟨symbol, value, rfl⟩
  · rw [hl.symbols_toModel e he] at hblank
    cases hblank
  · -- A value that is set although it is sought is a warning.
    rfl

theorem isError_units (hunits : ∀ q ∈ p.parameters, isBlankText q.unit = false) {f : Finding}
    (hf : f ∈ units (p.toModel l settings)) : f.isError = false := by
  obtain ⟨q, hq, hf⟩ := List.mem_flatMap.1 hf
  obtain ⟨e, he, rfl⟩ := List.mem_map.1 hq
  by_contra herror
  have hempty := (mem_unitFindings hf).2 (by simpa using herror)
  rw [isEmpty_trim, hl.units_toModel hunits e he] at hempty
  cases hempty

theorem equations_eq_nil : equations (p.toModel l settings) = [] := by
  rw [List.eq_nil_iff_forall_not_mem]
  intro f hf
  obtain ⟨b, hb, e, he, hfinding⟩ := (p.resolved_toModel l settings).mem_equations hf
  cases p.drawnFrom_toModel l settings hb with
  | stated _ hequations =>
    rw [hequations] at he
    exact absurd he List.not_mem_nil
  | block c hc _ hequations =>
    rw [hequations] at he
    obtain ⟨declared, hdeclared, rfl⟩ := List.mem_map.1 he
    obtain ⟨hblank, hmarker⟩ := hl.expressions c hc declared hdeclared
    rcases hfinding with ⟨hfound, -⟩ | ⟨hfound, -⟩
    · exact absurd (hblank.symm.trans hfound) Bool.false_ne_true
    · exact absurd (hmarker.symm.trans hfound) Bool.false_ne_true

/-- The only finding about dependencies is that parameters depend on themselves. -/
theorem mem_dependency {f : Finding} (hf : f ∈ dependency (p.toModel l settings)) :
    ∃ symbol, f = .parameterCycle symbol ∧
      TransGen (ParameterDependsOn (p.toModel l settings)) symbol symbol := by
  have hgeneric : ∀ c ∈ (l.resolve (l.selection p)).blocks, c.IsBare → c.id = genericId :=
    fun c hc hbare => hl.generic c ((p.resolving l).blocks_mem c hc) hbare.1 hbare.2
  obtain ⟨hdistinct, hmissing, hcycle⟩ := p.moduleIds_toModel settings hgeneric
  rw [dependency_eq, repeatedModules_eq_nil_iff.2 hdistinct, missingModules_eq_nil_iff.2 hmissing,
    moduleCycle_eq_nil_iff.2 hcycle,
    (p.resolved_toModel l settings).undefinedDependencies_eq_nil] at hf
  obtain ⟨symbol, hnamed, rfl⟩ := List.mem_map.1 hf
  exact ⟨symbol, rfl, (onCycle_of_cycleVertex? (Option.mem_toList.1 hnamed)).2⟩

/-- Without formulas in the problem, there is nothing to be found about dependencies. -/
theorem dependency_eq_nil (hplain : ∀ q ∈ p.parameters, q.formula = none) :
    dependency (p.toModel l settings) = [] := by
  rw [List.eq_nil_iff_forall_not_mem]
  intro f hf
  obtain ⟨symbol, -, hcycle⟩ := hl.mem_dependency hf
  -- A cycle of parameters would be one of formulas of the library.
  have hle : ParameterDependsOn (p.toModel l settings) ≤ l.formulaGraph.Edge :=
    fun _ _ h => Problem.formulaGraph_edge hplain h
  have hon : l.formulaGraph.OnCycle symbol := TransGen.mono hle symbol symbol hcycle
  have hcyclic := (Graph.isCyclic_iff l.closed_formulaGraph).2 ⟨symbol, hon⟩
  rw [hl.acyclic] at hcyclic
  cases hcyclic

/-- What blocks a run is a setting that is not positive, or a formula of the problem. -/
theorem mem_blocking {f : Finding}
    (hf : f ∈ (validate (p.toModel l settings)).blocking.flatMap Outcome.errors) :
    (isPositive (p.simulationSettings settings).duration = false ∧
        f = .badDuration (p.simulationSettings settings).duration) ∨
      (isPositive (p.simulationSettings settings).timeStep = false ∧
        f = .badTimeStep (p.simulationSettings settings).timeStep) ∨
      ∃ symbol, f = .parameterCycle symbol ∧ ∃ q ∈ p.parameters, q.formula ≠ none := by
  obtain ⟨a, hblocks, hf, herror⟩ := mem_blocking_errors.1 hf
  cases a with
  | structural => exact (Problem.mem_structural hf herror).imp_right .inl
  | logical => cases hblocks
  | dependency =>
    obtain ⟨symbol, rfl, -⟩ := hl.mem_dependency hf
    refine .inr (.inr ⟨symbol, rfl, ?_⟩)
    by_contra hno
    have hplain : ∀ q ∈ p.parameters, q.formula = none :=
      fun q hq => by_contra fun hformula => hno ⟨q, hq, hformula⟩
    have hfound : Finding.parameterCycle symbol ∈ dependency (p.toModel l settings) := hf
    rw [hl.dependency_eq_nil hplain] at hfound
    exact absurd hfound List.not_mem_nil
  | physics => cases hblocks
  | units => cases hblocks
  | equations =>
    have hfound : f ∈ equations (p.toModel l settings) := hf
    rw [hl.equations_eq_nil] at hfound
    exact absurd hfound List.not_mem_nil

/-- Without formulas in the problem, and with settings that are positive, there are no errors under
the aspects that do not look at quantities. -/
theorem isError_eq_false (hplain : ∀ q ∈ p.parameters, q.formula = none)
    (hduration : isPositive (p.simulationSettings settings).duration = true)
    (hstep : isPositive (p.simulationSettings settings).timeStep = true) {a : Aspect}
    (ha : a ∈ [Aspect.structural, .logical, .dependency, .equations]) {f : Finding}
    (hf : f ∈ a.check (p.toModel l settings)) : f.isError = false := by
  cases a with
  | structural => exact Problem.isError_structural hduration hstep hf
  | logical => exact hl.isError_logical hf
  | dependency =>
    have hfound : f ∈ dependency (p.toModel l settings) := hf
    rw [hl.dependency_eq_nil hplain] at hfound
    exact absurd hfound List.not_mem_nil
  | physics => exact absurd ha (by decide)
  | units => exact absurd ha (by decide)
  | equations =>
    have hfound : f ∈ equations (p.toModel l settings) := hf
    rw [hl.equations_eq_nil] at hfound
    exact absurd hfound List.not_mem_nil

end Library.WellStated

/-! ## §4 The standard library -/

theorem hasUndefinedMarker_eq (expression : String) :
    Formula.hasUndefinedMarker expression =
      occursIn Formula.undefinedMarker.toList (smallLettersAfter [] expression.toList) := by
  rw [Formula.hasUndefinedMarker, contains, toSmall, String.toList_ofList]

theorem standard_parameters : ∀ b ∈ Library.standard.blocks, ∀ p ∈ b.parameters,
    isBlankText p.symbol = false ∧ isBlankText p.unit = false := by decide +kernel

/-- In the standard library, no equation is blank or undefined, and every name in one that the block
does not declare has a usual unit. -/
theorem standard_equations : ∀ b ∈ Library.standard.blocks, ∀ e ∈ b.equations,
    (isBlankText e.expression = false ∧
      occursIn Formula.undefinedMarker.toList (smallLettersAfter [] e.expression.toList) = false) ∧
    ∀ name ∈ Formula.identifiers e.expression, b.declares name = false →
      isBlankText name = false ∧
        isBlankText (impliedParameter name b.domain (b.equationId e)).quantity.unit = false := by
  decide +kernel

theorem Library.wellStated_standard : Library.standard.WellStated where
  declared := standard_parameters
  implied := fun b hb e he => (standard_equations b hb e he).2
  expressions := fun b hb e he => by
    rw [hasUndefinedMarker_eq]
    exact (standard_equations b hb e he).1
  generic := by decide
  acyclic := by decide +kernel

/-- With the standard library, what blocks the run of an assembled model is a duration or a time
step that is not positive and finite, or a cycle of parameters; and the latter only if the problem
states a formula.

Without formulas, and with a positive and finite duration and time step, the model can be run and is
valid under all aspects but that of physics, whatever else the problem says: of its units it is
enough that none is blank. -/
theorem Problem.toModel_standard_runs (p : Problem) (settings : RunSettings) :
    (∀ f ∈ (validate (p.toModel .standard settings)).blocking.flatMap Outcome.errors,
      (f.code = "IR-S02" ∧ isPositive (p.simulationSettings settings).duration = false) ∨
        (f.code = "IR-S03" ∧ isPositive (p.simulationSettings settings).timeStep = false) ∨
        (f.code = "IR-D05" ∧ ∃ q ∈ p.parameters, q.formula ≠ none)) ∧
    ((∀ q ∈ p.parameters, q.formula = none) →
      isPositive (p.simulationSettings settings).duration = true →
      isPositive (p.simulationSettings settings).timeStep = true →
      (validate (p.toModel .standard settings)).canRun = true ∧
        (∀ a ∈ [Aspect.structural, .logical, .dependency, .equations],
          (validate (p.toModel .standard settings)).isValidUnder a = true) ∧
        ((∀ q ∈ p.parameters, isBlankText q.unit = false) →
          (validate (p.toModel .standard settings)).isValidUnder .units = true)) := by
  have hl := Library.wellStated_standard
  constructor
  · intro f hf
    have htwo : codeOf .structural 2 = "IR-S02" := by decide
    have hthree : codeOf .structural 3 = "IR-S03" := by decide
    have hfive : codeOf .dependency 5 = "IR-D05" := by decide
    rcases hl.mem_blocking hf with ⟨hduration, rfl⟩ | ⟨hstep, rfl⟩ | ⟨symbol, rfl, hformula⟩
    · exact .inl ⟨htwo, hduration⟩
    · exact .inr (.inl ⟨hthree, hstep⟩)
    · exact .inr (.inr ⟨hfive, hformula⟩)
  · intro hplain hduration hstep
    have herrors : ∀ a ∈ [Aspect.structural, .logical, .dependency, .equations],
        ∀ f ∈ a.check (p.toModel .standard settings), f.isError = false :=
      fun a ha f hf => hl.isError_eq_false hplain hduration hstep ha hf
    refine ⟨canRun_validate_iff.2 fun a hblocks => herrors a ?_,
      fun a ha => isValidUnder_validate_iff.2 (herrors a ha),
      fun hunits => isValidUnder_validate_iff.2 fun f hf => hl.isError_units hunits hf⟩
    -- The blocking aspects are among the four.
    cases a with
    | structural => decide
    | logical => cases hblocks
    | dependency => decide
    | physics => cases hblocks
    | units => cases hblocks
    | equations => decide

/-- A problem whose symbols are those of several blocks, for which the blocks have different
formulas. -/
def shadowingProblem : Problem where
  parameters := [
    { symbol := " lambda ", value := 0.5, unit := "m" },
    { symbol := "v", value := 3.0, unit := "m/s", role := "unknown" },
    { symbol := "omega", value := 2.0, unit := "rad/s" }]
  modules := ["quantum", "wave", "relativistic", "oscillation"]

/-- The shadowed symbols lead to a model that can run, and none of its units is at fault. -/
theorem runs_shadowingProblem :
    (validate (shadowingProblem.toModel .standard {})).canRun = true ∧
      (validate (shadowingProblem.toModel .standard {})).isValidUnder .units = true := by
  obtain ⟨-, hruns⟩ := Problem.toModel_standard_runs shadowingProblem {}
  obtain ⟨hcan, -, hunits⟩ := hruns (by decide) (by decide) (by decide)
  exact ⟨hcan, hunits (by decide)⟩

end PhysicsLab
