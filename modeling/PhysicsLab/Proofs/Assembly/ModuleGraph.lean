import Mathlib.Data.List.Forall2
import PhysicsLab.Assembly
import PhysicsLab.Proofs.Assembly.Modules
import PhysicsLab.Proofs.Validation.Dependency

/-!
# The modules of a model and the resolution they come from

The blocks of a resolution have distinct ids, and the registered edges lead from block to block
without a cycle.  A model has one module for each of these blocks, in the same order, and each
module depends on what is registered for its block.

A module also has the id and the equations of its block, with one exception.  A generic block that
declares no parameters is replaced by the module about which nothing in particular is known, under
an id of its own; but the dependencies still name blocks.  So what is known about the graph of the
resolution holds of the modules as long as such a block has that id anyway.

## Main definitions

* `KnowledgeBlock.IsBare` — generic and without parameters
* `Resolution.Gives` — what a module has from its block

## Main statements

* `Problem.modules_toModel_of_selected`
* `Problem.toModel_modules`
-/

namespace PhysicsLab

open PhysicsLab.Validation
open Relation

/-! ## §1 The module of a block -/

/-- The id of the module about which nothing in particular is known. -/
def genericId : String := "generic"

/-- A generic block that declares no parameters. -/
def KnowledgeBlock.IsBare (c : KnowledgeBlock) : Prop :=
  c.domain = .generic ∧ c.parameters.isEmpty = true

instance (c : KnowledgeBlock) : Decidable c.IsBare := inferInstanceAs (Decidable (_ ∧ _))

/-- What a module has from a block of a resolution: the registered dependencies, and unless the
block is bare also its id and its equations, each under an id that starts with that of the block. -/
structure Resolution.Gives (r : Resolution) (c : KnowledgeBlock) (b : PhysicsModule) : Prop where
  dependencies_eq : b.dependencies = r.dependenciesOf c.id
  id_eq : ¬ c.IsBare → b.id = c.id
  equations_eq : ¬ c.IsBare →
    (b.equations.map fun e => (e.id, e.kind, e.expression, e.meaning)) =
      c.equations.map fun e => (c.id ++ "_" ++ e.id, e.kind, e.expression, e.meaning)
  bare : c.IsBare → b.id = genericId ∧ b.domain = .generic ∧ b.equations = []

theorem Resolution.gives (r : Resolution) (c : KnowledgeBlock) (stated : Table Parameter) :
    r.Gives c (c.toModule (r.dependenciesOf c.id) stated) := by
  unfold KnowledgeBlock.toModule
  split
  · next hbare =>
    exact ⟨rfl, fun h => absurd hbare h, fun h => absurd hbare h, fun _ => ⟨rfl, rfl, rfl⟩⟩
  · next hbare =>
    refine ⟨rfl, fun _ => rfl, fun _ => ?_, fun h => absurd h hbare⟩
    -- An equation keeps what is declared, and its id is put behind that of the block.
    show (c.equations.map (c.toEquation (c.table stated) stated)).map _ = _
    rw [List.map_map]
    rfl

theorem Resolution.Gives.id_eq_of_generic {r : Resolution} {c : KnowledgeBlock} {b : PhysicsModule}
    (h : r.Gives c b) (hgeneric : c.IsBare → c.id = genericId) : b.id = c.id := by
  by_cases hbare : c.IsBare
  · exact (h.bare hbare).1.trans (hgeneric hbare).symm
  · exact h.id_eq hbare

theorem Resolution.mem_dependenciesOf {r : Resolution} {id d : String} :
    d ∈ r.dependenciesOf id ↔ (id, d) ∈ r.edges := by
  simp [dependenciesOf]

/-! ## §2 The modules of a model -/

variable {l : Library} {p : Problem} {settings : RunSettings}

/-- Without a selected block, a model has one module, which depends on nothing. -/
theorem Problem.modules_toModel_of_nothing (p : Problem) (settings : RunSettings)
    (hnone : l.selection p = []) :
    (p.toModel l settings).modules = [genericModule (statedTable p.parameters)] := by
  have hempty : (l.selection p).isEmpty = true := by rw [hnone, List.isEmpty_nil]
  exact if_pos hempty

theorem Problem.modules_toModel_of_selected (hsome : l.selection p ≠ []) :
    (p.toModel l settings).modules = (l.resolve (l.selection p)).blocks.map fun c =>
      c.toModule ((l.resolve (l.selection p)).dependenciesOf c.id) (statedTable p.parameters) := by
  have hnonempty : ¬ (l.selection p).isEmpty = true := by rwa [List.isEmpty_iff]
  exact if_neg hnonempty

/-- Block by block, the modules of a model are those of the resolution. -/
theorem Problem.forall₂_modules_toModel (hsome : l.selection p ≠ []) :
    List.Forall₂ (l.resolve (l.selection p)).Gives (l.resolve (l.selection p)).blocks
      (p.toModel l settings).modules := by
  rw [modules_toModel_of_selected hsome, List.forall₂_map_right_iff, List.forall₂_same]
  intro c _
  exact Resolution.gives _ c _

/-- If bare blocks have the id of the module that replaces them, then ids and dependencies of the
modules are those of the blocks and edges of the resolution. -/
theorem Problem.moduleIds_eq (p : Problem) (settings : RunSettings) (hsome : l.selection p ≠ [])
    (hgeneric : ∀ c ∈ (l.resolve (l.selection p)).blocks, c.IsBare → c.id = genericId) :
    moduleIds (p.toModel l settings) = (l.resolve (l.selection p)).ids ∧
      ∀ b ∈ (p.toModel l settings).modules, ∀ d ∈ b.dependencies,
        (b.id, d) ∈ (l.resolve (l.selection p)).edges := by
  have hid : ∀ c ∈ (l.resolve (l.selection p)).blocks,
      (c.toModule ((l.resolve (l.selection p)).dependenciesOf c.id)
        (statedTable p.parameters)).id = c.id :=
    fun c hc => (Resolution.gives _ c _).id_eq_of_generic (hgeneric c hc)
  rw [moduleIds, modules_toModel_of_selected hsome]
  constructor
  · rw [List.map_map, Resolution.ids]
    exact List.map_congr_left hid
  · intro b hb d hd
    obtain ⟨c, hc, rfl⟩ := List.mem_map.1 hb
    rw [(Resolution.gives _ c _).dependencies_eq] at hd
    rw [hid c hc]
    exact Resolution.mem_dependenciesOf.1 hd

/-- The modules of a model are distinct, depend on modules of the model, and not on themselves. -/
theorem Problem.moduleIds_toModel (p : Problem) (settings : RunSettings)
    (hgeneric : ∀ c ∈ (l.resolve (l.selection p)).blocks, c.IsBare → c.id = genericId) :
    (moduleIds (p.toModel l settings)).Nodup ∧
      (∀ b ∈ (p.toModel l settings).modules, ∀ d ∈ b.dependencies,
        d ∈ moduleIds (p.toModel l settings)) ∧
      ∀ id, ¬ TransGen (ModuleDependsOn (p.toModel l settings)) id id := by
  have hresolving := p.resolving l
  by_cases hnone : l.selection p = []
  · have hmodules := p.modules_toModel_of_nothing settings hnone
    have hno : ∀ b ∈ (p.toModel l settings).modules, ∀ d, d ∉ b.dependencies := by
      intro b hb d hd
      rw [hmodules, List.mem_singleton] at hb
      subst hb
      exact absurd hd List.not_mem_nil
    refine ⟨?_, fun b hb d hd => absurd hd (hno b hb d), fun id hcycle => ?_⟩
    · rw [moduleIds, hmodules]
      exact List.nodup_singleton _
    · obtain ⟨d, ⟨⟨b, hb, -, hd⟩, -⟩, -⟩ := TransGen.head'_iff.1 hcycle
      exact hno b hb d hd
  · obtain ⟨hids, hedges⟩ := p.moduleIds_eq settings hnone hgeneric
    refine ⟨hids ▸ hresolving.distinct, fun b hb d hd => ?_, fun id hcycle => ?_⟩
    · -- The queue is worked off, so the target of an edge is among the blocks.
      rw [hids]
      exact (hresolving.target_mem b.id d (hedges b hb d hd)).resolve_right List.not_mem_nil
    · -- A cycle of modules would be one of registered edges.
      have hle : ModuleDependsOn (p.toModel l settings) ≤
          (l.resolve (l.selection p)).graph.Edge := by
        rintro id d ⟨⟨b, hb, rfl, hd⟩, -⟩
        exact hedges b hb d hd
      exact hresolving.acyclic id (TransGen.mono hle id id hcycle)

/-! ## §3 Findings about modules -/

/-- The modules of a model for which blocks are selected.

* There is one module for each block of the resolution, in the same order, with the registered
  dependencies.  It has the id and all equations of its block, unless the block is bare.
* If bare blocks have the id `generic`, then ids are distinct, dependencies are modules of the
  model, there is no cycle, and validation has nothing to find about all that. -/
theorem Problem.toModel_modules (p : Problem) (l : Library) (settings : RunSettings)
    (hsome : l.selection p ≠ []) :
    List.Forall₂ (l.resolve (l.selection p)).Gives (l.resolve (l.selection p)).blocks
        (p.toModel l settings).modules ∧
      ((∀ c ∈ (l.resolve (l.selection p)).blocks, c.IsBare → c.id = genericId) →
        moduleIds (p.toModel l settings) = (l.resolve (l.selection p)).ids ∧
        (moduleIds (p.toModel l settings)).Nodup ∧
        (∀ b ∈ (p.toModel l settings).modules, ∀ d ∈ b.dependencies,
          d ∈ moduleIds (p.toModel l settings)) ∧
        (∀ id, ¬ TransGen (ModuleDependsOn (p.toModel l settings)) id id) ∧
        ∀ code ∈ ["IR-D01", "IR-D02", "IR-D03"],
          findingsWith (p.toModel l settings) code = []) := by
  refine ⟨forall₂_modules_toModel hsome, fun hgeneric => ?_⟩
  obtain ⟨hids, -⟩ := p.moduleIds_eq settings hsome hgeneric
  obtain ⟨hdistinct, hthere, hacyclic⟩ := p.moduleIds_toModel settings hgeneric
  refine ⟨hids, hdistinct, hthere, hacyclic, fun code hcode => ?_⟩
  have hrepeated := repeatedModules_eq_nil_iff.2 hdistinct
  have hmissing := missingModules_eq_nil_iff.2 hthere
  have hcycle := moduleCycle_eq_nil_iff.2 hacyclic
  simp only [List.mem_cons, List.not_mem_nil, or_false] at hcode
  rcases hcode with rfl | rfl | rfl
  · simp [findingsWith_eq, hrepeated]
  · simp [findingsWith_eq, hmissing]
  · simp [findingsWith_eq, hcycle]

/-- Blocks that build on each other in a circle, and on a bare one that has the expected id. -/
def inclineLibrary : Library where
  blocks := [
    { id := "incline"
      name := "Incline"
      domain := .dynamics
      parameters := [{ symbol := "alpha", value := 0.5, unit := "rad", role := .given }]
      equations := [{ id := "slide", kind := .algebraic, expression := "a = g * sin(alpha)" }]
      dependencies := ["weight", "generic"] },
    { id := "weight"
      name := "Weight"
      equations := [{ id := "force", kind := .definition, expression := "F = m * g" }]
      parameters := [{ symbol := "m", value := 1.0, unit := "kg", role := .given }]
      dependencies := ["generic", "incline", "missing"] },
    { id := "generic", name := "Generic" }]
  distinct := by decide

/-- The circle and the missing block leave no trace: the modules are those that were asked for and
the ones they need, and nothing is found about their dependencies. -/
theorem modules_inclineLibrary :
    moduleIds (Problem.toModel { modules := ["weight"] } inclineLibrary {}) = ["weight", "generic",
        "incline"] ∧
      ∀ code ∈ ["IR-D01", "IR-D02", "IR-D03"],
        findingsWith (Problem.toModel { modules := ["weight"] } inclineLibrary {}) code = [] := by
  obtain ⟨-, hrest⟩ := Problem.toModel_modules { modules := ["weight"] } inclineLibrary {}
    (by decide)
  obtain ⟨hids, -, -, -, hfindings⟩ := hrest (by decide)
  exact ⟨hids.trans (by decide), hfindings⟩

/-- Bare blocks that build on each other. -/
def bareLibrary : Library where
  blocks := [
    { id := "field"
      name := "Field"
      equations := [{ id := "force", kind := .algebraic, expression := "F = q * E" }]
      dependencies := ["source", "generic"] },
    { id := "source", name := "Source" },
    { id := "generic", name := "Generic" }]
  distinct := by decide

/-- Where bare blocks have other ids, the modules that replace them share one, and a dependency on
such a block leads nowhere or back to the module itself. -/
theorem modules_bareLibrary :
    (bareLibrary.resolve (bareLibrary.selection { modules := ["field"] })).ids =
        ["field", "source", "generic"] ∧
      moduleIds (Problem.toModel { modules := ["field"] } bareLibrary {}) =
        ["generic", "generic", "generic"] ∧
      (∀ b ∈ (Problem.toModel { modules := ["field"] } bareLibrary {}).modules,
        b.equations = []) ∧
      dependency (Problem.toModel { modules := ["field"] } bareLibrary {}) =
        [.duplicateModule "generic", .duplicateModule "generic",
          .missingModule "generic" "source", .moduleCycle] := by
  decide

end PhysicsLab
